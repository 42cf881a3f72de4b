import DeviceOnboard.Yaml.Implicit

/-!
# String scalars

A string is written in one of four styles: plain, in single quotes, in double quotes, or as a
literal block. The style is chosen by what the string looks like, and then by which styles can
hold its characters. Lines are never folded.
-/
namespace DeviceOnboard.Yaml

inductive Style where
  | plain | single | double | literal
  deriving DecidableEq, Repr

def isBreak (c : Char) : Bool :=
  c = '\n' || c = '\r' || c = '\x85' || c = '\u2028' || c = '\u2029'

/-- Whether a character is followed by the end of a word when it stands in front of `next`. -/
def isBlankOrEnd : Option Char → Bool
  | none => true
  | some c => c = ' ' || c = '\t' || c = '\x00' || isBreak c

/-- Characters that stand for themselves in a document. -/
def isPrintable (c : Char) : Bool :=
  let n := c.toNat
  n = 0x0A || (0x20 ≤ n && n ≤ 0x7E) || (0xA0 ≤ n && n ≤ 0xD7FF) ||
    (0xE000 ≤ n && n ≤ 0xFFFD && n ≠ 0xFEFF) || 0x10000 ≤ n

/-! ## What a string looks like -/

/-- Characters that mean something else at the start of a scalar. -/
def isIndicator (c : Char) : Bool :=
  ['#', ',', '[', ']', '\x7b', '\x7d', '&', '*', '!', '|', '>', '\'', '"', '%', '@',
    '\x60'].contains c

def startsWithIndicator : List Char → Bool
  | [] => false
  | c :: cs =>
    isIndicator c || ((c = '?' || c = ':' || c = '-') && isBlankOrEnd cs.head?)

/-- Whether a colon ends a key or a number sign starts a comment after the character `before`. -/
def hasInnerIndicator (before : Char) : List Char → Bool
  | [] => false
  | c :: cs =>
    (c = ':' && isBlankOrEnd cs.head?) || (c = '#' && isBlankOrEnd (some before)) ||
      hasInnerIndicator c cs

def startsWithMarker (cs : List Char) : Bool :=
  cs.take 3 = ['-', '-', '-'] || cs.take 3 = ['.', '.', '.']

def hasIndicator (cs : List Char) : Bool :=
  startsWithMarker cs || startsWithIndicator cs ||
    match cs with
    | [] => false
    | c :: rest => hasInnerIndicator c rest

/-- Whether a character of one class is directly followed by one of another. -/
def hasPair (p q : Char → Bool) : List Char → Bool
  | a :: b :: cs => (p a && q b) || hasPair p q (b :: cs)
  | _ => false

def isSpaceOrBreak (c : Char) : Bool := c = ' ' || isBreak c

/-- Whether a string may stand in single quotes: all its characters print, and no space touches a
line break from either side. -/
def allowsSingle (cs : List Char) : Bool :=
  cs.all isPrintable && !hasPair (· = ' ') isBreak cs && !hasPair isBreak (· = ' ') cs

/-- Whether a string may stand as it is. -/
def allowsPlain (cs : List Char) : Bool :=
  allowsSingle cs && !hasIndicator cs && !cs.any isBreak &&
    !cs.head?.any isSpaceOrBreak && !cs.getLast?.any isSpaceOrBreak

/-- Whether a string may stand in a literal block. -/
def allowsLiteral (cs : List Char) : Bool :=
  cs.all isPrintable && !hasPair (· = ' ') isBreak cs && cs.getLast? ≠ some ' '

def styleOf (s : String) : Style :=
  let cs := s.toList
  if cs.contains '\n' then if allowsLiteral cs then .literal else .double
  else if !needsQuotes s && allowsPlain cs then .plain
  else if allowsSingle cs then .single
  else .double

/-! ## The text of a scalar -/

def spaces (n : Nat) : List Char := List.replicate n ' '

/-- Characters inside single quotes. After a line break the text goes on at the indent. -/
def singleBody (indent : Nat) (afterBreak : Bool) : List Char → List Char
  | [] => if afterBreak then spaces indent else []
  | c :: cs =>
    if isBreak c then c :: singleBody indent true cs
    else (if afterBreak then spaces indent else []) ++ (if c = '\'' then ['\'', '\''] else [c])
      ++ singleBody indent false cs

def hexDigits (width n : Nat) : List Char :=
  let ds := (Nat.toDigits 16 n).map Char.toUpper
  List.replicate (width - ds.length) '0' ++ ds

/-- The escapes of control characters and separators that have a letter. -/
def shortEscape? (c : Char) : Option Char :=
  [('\x00', '0'), ('\x07', 'a'), ('\x08', 'b'), ('\t', 't'), ('\n', 'n'), ('\x0b', 'v'),
    ('\x0c', 'f'), ('\r', 'r'), ('\x1b', 'e'), ('"', '"'), ('\\', '\\'), ('\x85', 'N'),
    ('\u2028', 'L'), ('\u2029', 'P')].lookup c

def doubleChar (c : Char) : List Char :=
  match shortEscape? c with
  | some e => ['\\', e]
  | none =>
    if isPrintable c then [c]
    else if c.toNat < 0x100 then ['\\', 'x'] ++ hexDigits 2 c.toNat
    else if c.toNat < 0x10000 then ['\\', 'u'] ++ hexDigits 4 c.toNat
    else ['\\', 'U'] ++ hexDigits 8 c.toNat

/-- The lines of a literal block; a line is indented when its first character is written. -/
def literalBody (indent : Nat) (lineStart : Bool) : List Char → List Char
  | [] => []
  | c :: cs =>
    if isBreak c then c :: literalBody indent true cs
    else (if lineStart then spaces indent else []) ++ c :: literalBody indent false cs

/-- Tells how deep a block is indented when its first line does not show it. -/
def indentHint (cs : List Char) : List Char :=
  if cs.head?.any isSpaceOrBreak then ['2'] else []

/-- Tells what becomes of the line breaks at the end of a block: without a break at the end the
last one is dropped, and more than one are kept. -/
def chompHint (cs : List Char) : List Char :=
  match cs.reverse with
  | [] => ['-']
  | [c] => if isBreak c then ['+'] else ['-']
  | c :: d :: _ => if isBreak c then if isBreak d then ['+'] else [] else ['-']

/-- The text of a string scalar, up to the end of its last line. -/
def scalarText (indent : Nat) (s : String) : List Char :=
  let cs := s.toList
  match styleOf s with
  | .plain => cs
  | .single => '\'' :: (singleBody indent false cs ++ ['\''])
  | .double => '"' :: (cs.flatMap doubleChar ++ ['"'])
  | .literal => '|' :: (indentHint cs ++ chompHint cs ++ '\n' :: literalBody indent true cs)

/-- A scalar and the line break after it, unless a literal block has already ended its line. -/
def scalarLine (indent : Nat) (s : String) : List Char :=
  let text := scalarText indent s
  if styleOf s = .literal && s.toList.getLast?.any isBreak then text else text ++ ['\n']

end DeviceOnboard.Yaml
