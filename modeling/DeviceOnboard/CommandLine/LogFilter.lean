import DeviceOnboard.Text.Alphanumeric
import DeviceOnboard.Text.Pieces

/-!
# Log filters

Which messages are logged: a list of directives between commas. A directive is a level, or it names
the messages that it is about, by their target, their span or both, with or without a level. In a
span, fields may be asked for in braces. The pattern of a field is kept as it is written.
-/
namespace DeviceOnboard.CommandLine

inductive LogLevel where
  | off | error | warn | info | debug | trace
  deriving DecidableEq, Repr

/-- Which messages are logged up to which level. -/
structure Directive where
  level : LogLevel
  target : Option String := none
  span : Option String := none
  fields : Option String := none
  deriving DecidableEq, Repr

namespace LogLevel

def all : List LogLevel := [off, error, warn, info, debug, trace]

def name : LogLevel → String
  | off => "off"
  | error => "error"
  | warn => "warn"
  | info => "info"
  | debug => "debug"
  | trace => "trace"

/-- The value of decimal digits. -/
def digitsValue? (value : Nat) : List Char → Option Nat
  | [] => some value
  | c :: cs => if c.isDigit then digitsValue? (value * 10 + (c.toNat - 48)) cs else none

/-- A number, which may have a plus sign. -/
def number? (cs : List Char) : Option Nat :=
  let digits := if cs.head? = some '+' then cs.tail else cs
  if digits = [] then none else digitsValue? 0 digits

/-- A level by its number, counted from `off`, or by its name in letters of any case. -/
def ofText? (cs : List Char) : Option LogLevel :=
  match number? cs with
  | some n => all[n]?
  | none => all.find? fun l => l.name.toList == cs.map Char.toLower

end LogLevel

namespace Directive

/-- The directive that logs all messages up to a level. -/
def upTo (level : LogLevel) : Directive := { level := level }

/-- The level at the end of a directive. When it is left out, everything is logged. -/
def level? : List Char → Option LogLevel
  | [] => some .trace
  | cs => LogLevel.ofText? cs

/-- The end of a directive: nothing, or a level after an equals sign. -/
def ending? (d : Directive) : List Char → Option Directive
  | [] => some d
  | '=' :: cs => (level? cs).map fun l => { d with level := l }
  | _ => none

/-- What follows the opening bracket of a span. -/
def span? (d : Directive) (cs : List Char) : Option Directive :=
  let name := String.ofList (cs.takeWhile fun c => c ≠ ']' && c ≠ '\x7b')
  match cs.dropWhile fun c => c ≠ ']' && c ≠ '\x7b' with
  | ']' :: rest => ending? { d with span := some name } rest
  | '\x7b' :: rest =>
    let fields := rest.takeWhile (· ≠ '\x7d')
    if fields = [] then none
    else
      match rest.dropWhile (· ≠ '\x7d') with
      | '\x7d' :: ']' :: rest =>
        ending? { d with
          span := if name = "" then none else some name
          fields := some (String.ofList fields) } rest
      | _ => none
  | _ => none

/-- Whether a directive may start with a character, if it does not start with a span. -/
def startsTarget (c : Char) : Bool := c = '-' || c = ':' || c = '_' || Text.isAlphanumeric c

/-- A directive without blanks around it. -/
def ofTrimmed? (cs : List Char) : Option Directive :=
  let target := cs.takeWhile fun c => c ≠ '=' && c ≠ '['
  let rest := cs.dropWhile fun c => c ≠ '=' && c ≠ '['
  if target = [] then
    match rest with
    | '[' :: rest => span? (upTo .trace) rest
    | _ => none
  else if cs.head?.all startsTarget then
    let d := { upTo .trace with target := some (String.ofList target) }
    match rest with
    | '[' :: rest => span? d rest
    | [] => some (((LogLevel.ofText? target).map upTo).getD d)
    | _ => ending? d rest
  else none

/-- A directive. Blanks around it are passed over, unless it gives a level for something. -/
def ofChars? (cs : List Char) : Option Directive :=
  let trimmed := Text.trimChars cs
  if trimmed ≠ cs && trimmed.contains '=' then none else ofTrimmed? trimmed

end Directive

/-- The directives of a filter. -/
structure LogFilter where
  directives : List Directive
  deriving DecidableEq, Repr

namespace LogFilter

/-- A filter; directives that are empty are passed over. -/
def ofText? (s : String) : Option LogFilter :=
  (((Text.pieces ',' s.toList).filter (· ≠ [])).mapM Directive.ofChars?).map LogFilter.mk

end LogFilter

end DeviceOnboard.CommandLine
