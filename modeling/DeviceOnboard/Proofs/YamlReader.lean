import DeviceOnboard.Yaml.Document

/-!
# Reading YAML documents

How the servers read what they are configured with: block mappings and lists, scalars in all four
styles, and the core schema for plain scalars. The reader goes over the characters once, as the
scanner of the servers does. It refuses the parts of the language that configurations do not use,
such as anchors, tags, folded blocks, flow collections with items, nulls and explicit keys.
-/
namespace DeviceOnboard.Yaml

/-! ## Characters -/

/-- Characters that may stand in a stream. Controls and the byte order mark may not. -/
def isReadable (c : Char) : Bool := isPrintable c || c = '\t' || c = '\r' || c = '\x85'

/-- Carriage returns and next-line characters are read as line feeds. -/
def normalizeBreaks : List Char → List Char
  | '\r' :: '\n' :: cs => '\n' :: normalizeBreaks cs
  | c :: cs => (if c = '\r' || c = '\x85' then '\n' else c) :: normalizeBreaks cs
  | [] => []

def isBlank (c : Char) : Bool := c = ' ' || c = '\t'

/-- Whether one of the given characters stands alone in front of the text. -/
def startsWord (cs : List Char) (c : Char) : Bool :=
  cs.head? = some c && isBlankOrEnd cs.tail.head?

/-- Whether a document starts or ends here, in the first column. -/
def atMarker (cs : List Char) : Bool :=
  (cs.take 3 = ['-', '-', '-'] || cs.take 3 = ['.', '.', '.']) && isBlankOrEnd (cs.drop 3).head?

/-- Whether a plain scalar may start here. -/
def startsPlain : List Char → Bool
  | [] => false
  | c :: cs =>
    if c = '-' || c = '?' || c = ':' then !isBlankOrEnd cs.head?
    else !isBlank c && !isBreak c &&
      !"#,[]\x7b\x7d&*!|>'\"%@\x60".toList.contains c

/-! ## Places -/

/-- Where the reader stands: its column, whether a key or an item may start here, and what it
has not read yet. -/
structure Place where
  column : Nat
  keys : Bool
  rest : List Char
  deriving DecidableEq, Repr

/-- The place of the next token, after spaces, comments and line breaks. A key may start on any new
line; tabs are allowed only where no key may start. -/
def toToken (column : Nat) (keys comment : Bool) : List Char → Place
  | [] => ⟨column, keys, []⟩
  | c :: cs =>
    if isBreak c then toToken 0 true false cs
    else if comment || c = ' ' || (c = '\t' && !keys) then toToken (column + 1) keys comment cs
    else if c = '#' then toToken (column + 1) keys true cs
    else ⟨column, keys, c :: cs⟩

namespace Place

def skip (p : Place) : Place := toToken p.column p.keys false p.rest

/-- Whether a key or an item of the column may start here. -/
def isLine (p : Place) (column : Nat) : Bool := p.column = column && p.keys && p.rest ≠ []

def isItem (p : Place) (column : Nat) : Bool := p.isLine column && startsWord p.rest '-'

/-- Whether what was read from one place to another is a key: it is followed by a colon, lies
within one line and is not too long. -/
def isKey (p q : Place) : Bool :=
  let read := p.rest.take (p.rest.length - q.rest.length)
  p.keys && startsWord q.rest ':' && read.length ≤ 1024 && !read.any isBreak

end Place

/-! ## Scalars -/

/-- What is read of a scalar, and the place behind it. -/
abbrev Scan := Option (List Char × Place)

/-- Puts characters in front of what is read. -/
def Scan.after (front : List Char) (scan : Scan) : Scan :=
  scan.map fun (text, p) => (front ++ text, p)

/-- Blanks and line breaks that stand between two characters of a scalar. -/
inductive Gap where
  | blanks (text : List Char)
  | lines (first : Char) (others : List Char)
  deriving DecidableEq, Repr

namespace Gap

def empty : Gap := .blanks []

/-- Blanks at the start of a line do not count. -/
def blank (g : Gap) (c : Char) : Gap :=
  match g with
  | .blanks text => .blanks (text ++ [c])
  | .lines first others => .lines first others

/-- Blanks at the end of a line do not count. -/
def newLine (g : Gap) (c : Char) : Gap :=
  match g with
  | .blanks _ => .lines c []
  | .lines first others => .lines first (others ++ [c])

def isLines : Gap → Bool
  | .blanks _ => false
  | .lines _ _ => true

/-- A single line feed is read as a space, and the first one of many is dropped. -/
def text : Gap → List Char
  | .blanks text => text
  | .lines first others =>
    if first = '\n' then if others = [] then [' '] else others else first :: others

end Gap

/-- A plain scalar ends at a comment, at the colon of a key, and at a line that is not deep
enough. -/
def readPlain (floor column : Nat) (gap : Gap) : List Char → Scan
  | [] => some ([], ⟨column, gap.isLines, []⟩)
  | c :: cs =>
    if isBlank c then
      if c = '\t' && gap.isLines && column < floor then none
      else readPlain floor (column + 1) (gap.blank c) cs
    else if isBreak c then readPlain floor 0 (gap.newLine c) cs
    else if gap.isLines && (column < floor || (column = 0 && atMarker (c :: cs)))
        || c = '#' && gap ≠ .empty || c = ':' && isBlankOrEnd cs.head? then
      some ([], ⟨column, gap.isLines, c :: cs⟩)
    else Scan.after (gap.text ++ [c]) (readPlain floor (column + 1) .empty cs)

/-- The text of a scalar in single quotes, behind the first quote. A quote ends it unless another
one follows. -/
def readSingle (column : Nat) (gap : Gap) : (quoted : Bool) → List Char → Scan
  | true, [] => some (gap.text, ⟨column, false, []⟩)
  | true, c :: cs =>
    if c = '\'' then Scan.after (gap.text ++ ['\'']) (readSingle (column + 1) .empty false cs)
    else some (gap.text, ⟨column, false, c :: cs⟩)
  | false, [] => none
  | false, c :: cs =>
    if isBlank c then readSingle (column + 1) (gap.blank c) false cs
    else if isBreak c then readSingle 0 (gap.newLine c) false cs
    else if gap.isLines && column = 0 && atMarker (c :: cs) then none
    else if c = '\'' then readSingle (column + 1) gap true cs
    else Scan.after (gap.text ++ [c]) (readSingle (column + 1) .empty false cs)

/-- The parts of an escape: none, what follows the backslash, and digits that are left. -/
inductive Escape where
  | none
  | letter
  | digits (left value : Nat)
  deriving DecidableEq, Repr

/-- The characters that are escaped by a letter. -/
def unescape? (c : Char) : Option Char :=
  [('0', '\x00'), ('a', '\x07'), ('b', '\x08'), ('t', '\t'), ('\t', '\t'), ('n', '\n'),
    ('v', '\x0b'), ('f', '\x0c'), ('r', '\r'), ('e', '\x1b'), (' ', ' '), ('"', '"'), ('/', '/'),
    ('\\', '\\'), ('N', '\x85'), ('_', '\xa0'), ('L', '\u2028'), ('P', '\u2029')].lookup c

/-- The number of digits of an escaped code point. -/
def escapeWidth? (c : Char) : Option Nat := [('x', 2), ('u', 4), ('U', 8)].lookup c

/-- The text of a scalar in double quotes, behind the first quote. Escaped line breaks are
refused. -/
def readDouble (column : Nat) (gap : Gap) : Escape → List Char → Scan
  | _, [] => none
  | .none, c :: cs =>
    if isBlank c then readDouble (column + 1) (gap.blank c) .none cs
    else if isBreak c then readDouble 0 (gap.newLine c) .none cs
    else if gap.isLines && column = 0 && atMarker (c :: cs) then none
    else if c = '"' then some (gap.text, ⟨column + 1, false, cs⟩)
    else if c = '\\' then Scan.after gap.text (readDouble (column + 1) .empty .letter cs)
    else Scan.after (gap.text ++ [c]) (readDouble (column + 1) .empty .none cs)
  | .letter, c :: cs =>
    match escapeWidth? c, unescape? c with
    | some width, _ => readDouble (column + 1) gap (.digits width 0) cs
    | none, some d => Scan.after [d] (readDouble (column + 1) gap .none cs)
    | none, none => none
  | .digits left value, c :: cs => do
    let value := value * 16 + (← digitIn? 16 c)
    if 1 < left then readDouble (column + 1) gap (.digits (left - 1) value) cs
    else if value.isValidChar then
      Scan.after [Char.ofNat value] (readDouble (column + 1) gap .none cs)
    else none

/-! ## Literal blocks -/

/-- What becomes of the line breaks at the end of a block. -/
inductive Chomp where
  | strip | clip | keep
  deriving DecidableEq, Repr

/-- The line breaks of a block since its last character: the first one, unless the block has no
character yet, and all others. -/
structure Breaks where
  first : List Char
  others : List Char
  deriving DecidableEq, Repr

def Chomp.apply (b : Breaks) : Chomp → List Char
  | .strip => []
  | .clip => b.first
  | .keep => b.first ++ b.others

/-- How deep a block is indented that does not tell: as deep as its first line with text. -/
def blockIndent? (column deepest : Nat) : List Char → Option Nat
  | [] => some (max column deepest)
  | c :: cs =>
    if c = ' ' then blockIndent? (column + 1) deepest cs
    else if c = '\t' then none
    else if isBreak c then blockIndent? 0 (max column deepest) cs
    else some (max column deepest)

/-- The lines of a block. Between two lines the reader knows which breaks came since the last
character. -/
def readLiteral (indent : Nat) (chomp : Chomp) (column : Nat) : Option Breaks → List Char → Scan
  | none, [] => some ([], ⟨column, true, []⟩)
  | none, c :: cs =>
    if isBreak c then readLiteral indent chomp 0 (some ⟨[c], []⟩) cs
    else Scan.after [c] (readLiteral indent chomp (column + 1) none cs)
  | some breaks, [] => some (chomp.apply breaks, ⟨column, true, []⟩)
  | some breaks, c :: cs =>
    if c = ' ' && column < indent then readLiteral indent chomp (column + 1) (some breaks) cs
    else if isBreak c then
      readLiteral indent chomp 0 (some { breaks with others := breaks.others ++ [c] }) cs
    else if column = indent then
      Scan.after (breaks.first ++ breaks.others ++ [c])
        (readLiteral indent chomp (column + 1) none cs)
    else if c = '\t' then none
    else some (chomp.apply breaks, ⟨column, true, c :: cs⟩)

/-- What the header of a block tells about its indentation, if it does. -/
def indentHint? : List Char → Option Nat × List Char
  | c :: cs => if '1' ≤ c && c ≤ '9' then (some (c.toNat - 48), cs) else (none, c :: cs)
  | [] => (none, [])

def chompHint? : List Char → Chomp × List Char
  | '-' :: cs => (.strip, cs)
  | '+' :: cs => (.keep, cs)
  | cs => (.clip, cs)

/-- A literal block behind its bar. -/
def readBlock (floor : Nat) (cs : List Char) : Scan :=
  let (hint, cs) := indentHint? cs
  let (chomp, cs) := chompHint? cs
  match cs with
  | c :: cs =>
    if isBreak c then do
      let indent ← match hint with
        | some n => some (floor - 1 + n)
        | none => (blockIndent? 0 0 cs).map fun n => max n (max floor 1)
      readLiteral indent chomp 0 (some ⟨[], []⟩) cs
    else none
  | [] => none

/-! ## Nodes -/

/-- The integer that a plain scalar stands for, if it fits 128 bits. -/
def integer? : List Char → Option Int
  | '-' :: cs => ((magnitude? cs).filter (· ≤ Nat.pow 2 127)).map Int.negOfNat
  | '+' :: cs => ((magnitude? cs).filter (· < Nat.pow 2 128)).map Int.ofNat
  | cs => ((magnitude? cs).filter (· < Nat.pow 2 128)).map Int.ofNat

/-- What a plain scalar stands for. -/
def resolve (s : String) : Option Yaml :=
  if s = "" || isNullWord s then none
  else if isBoolWord s then some (.bool (s = "true" || s = "True" || s = "TRUE"))
  else if isZeroPadded s then some (.str s)
  else
    match integer? s.toList with
    | some n => some (.int n)
    | none => if isFloat s then some (.word s) else some (.str s)

/-- A scalar, with the place of the token behind it. Nodes of its mapping lie at the floor or
deeper. -/
def readScalar (floor : Nat) (p : Place) : Option (Yaml × Place) :=
  let string : List Char × Place → Yaml × Place := fun (text, q) =>
    (.str (String.ofList text), q.skip)
  match p.rest with
  | '\'' :: cs => (readSingle (p.column + 1) .empty false cs).map string
  | '"' :: cs => (readDouble (p.column + 1) .empty .none cs).map string
  | '|' :: cs => (readBlock floor cs).map string
  | cs =>
    if startsPlain cs && !(p.column = 0 && atMarker cs) then do
      let (text, q) ← readPlain floor p.column .empty cs
      let v ← resolve (String.ofList text)
      return (v, q.skip)
    else none

mutual

/-- A node that lies at the floor or deeper. A scalar that is followed by a colon is the first key
of a mapping. -/
def readNode : Nat → Nat → Place → Option (Yaml × Place)
  | 0, _, _ => none
  | fuel + 1, floor, p =>
    if p.column < floor then none
    else if startsWord p.rest '-' then
      if p.keys then
        (readItems fuel p.column p).map fun (items, q) => (.seq items, q)
      else none
    else
      match p.rest with
      | '[' :: ']' :: cs => some (.seq [], Place.skip ⟨p.column + 2, false, cs⟩)
      | '\x7b' :: '\x7d' :: cs => some (.map [], Place.skip ⟨p.column + 2, false, cs⟩)
      | _ => do
        let (v, q) ← readScalar floor p
        if p.isKey q then
          let .str key := v | none
          let (entries, r) ← readEntries fuel p.column key q
          if (entries.map Prod.fst).Nodup then return (.map entries, r) else none
        else return (v, q)
termination_by structural fuel => fuel

/-- The items of a list in the column, from the dash of the first one. -/
def readItems : Nat → Nat → Place → Option (List Yaml × Place)
  | 0, _, _ => none
  | fuel + 1, column, p => do
    let (v, q) ← readNode fuel (column + 1) (Place.skip ⟨column + 1, true, p.rest.tail⟩)
    if q.isItem column then
      let (items, r) ← readItems fuel column q
      return (v :: items, r)
    else return ([v], q)
termination_by structural fuel => fuel

/-- What follows the colon of a key in the column. The items of a list may start in the column of
the key. -/
def readValue : Nat → Nat → Place → Option (Yaml × Place)
  | 0, _, _ => none
  | fuel + 1, column, p =>
    if p.isItem column then (readItems fuel column p).map fun (items, q) => (.seq items, q)
    else readNode fuel (column + 1) p
termination_by structural fuel => fuel

/-- The entries of a mapping in the column, from the colon of its first key. -/
def readEntries : Nat → Nat → String → Place → Option (List (String × Yaml) × Place)
  | 0, _, _, _ => none
  | fuel + 1, column, key, p => do
    let (v, q) ← readValue fuel column (Place.skip ⟨p.column + 1, false, p.rest.tail⟩)
    if q.isLine column then
      let (.str next, r) ← readScalar (column + 1) q | none
      if q.isKey r then
        let (entries, s) ← readEntries fuel column next r
        return ((key, v) :: entries, s)
      else none
    else return ([(key, v)], q)
termination_by structural fuel => fuel

end

/-- The document that a text holds. Its length bounds the number of its nodes and entries. -/
def ofText? (s : String) : Option Yaml :=
  let cs := s.toList
  if cs.all isReadable then
    match readNode (cs.length + 1) 0 (toToken 0 true false (normalizeBreaks cs)) with
    | some (v, p) => if p.rest = [] then some v else none
    | none => none
  else none

end DeviceOnboard.Yaml
