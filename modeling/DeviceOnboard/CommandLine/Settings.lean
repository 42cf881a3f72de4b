import DeviceOnboard.CommandLine.Parameter

/-!
# Settings of the controller

The settings that a command line and an environment give. A parameter takes its value after an
equals sign or from the next argument; each may be given once. An argument that is no parameter is
refused, also after `--`. What is not on the command line is taken from the environment.
-/
namespace DeviceOnboard.CommandLine

/-- The parameters that were given, with their values. -/
abbrev Given := List (Parameter × String)

namespace Given

/-- Adds a parameter. A switch has the empty value. -/
def add (given : Given) (p : Parameter) (value : String) : Except Error Given := do
  if (given.lookup p).isSome then throw .repeated
  match p.valueKind? with
  | some kind => kind.check value
  | none => pure ()
  return given ++ [(p, value)]

/-- Adds the parameter whose value was awaited, if there is one. -/
def settle (given : Given) : Option (Parameter × Option String) → Except Error Given
  | none => .ok given
  | some (_, none) => .error .missingValue
  | some (p, some value) => given.add p value

end Given

/-- What an argument looks like. -/
inductive Word where
  /-- A parameter, which may have its value after an equals sign. -/
  | parameter (name : String) (value : Option String)
  /-- A dash and letters. -/
  | letters
  | plain
  deriving DecidableEq, Repr

def Word.ofText (s : String) : Word :=
  match s.toList with
  | '-' :: '-' :: cs =>
    parameter (String.ofList (cs.takeWhile (· ≠ '=')))
      (match cs.dropWhile (· ≠ '=') with
      | [] => none
      | _ :: value => some (String.ofList value))
  | '-' :: _ :: _ => letters
  | _ => plain

/-- Reads arguments after some that were read. A value that is awaited is only taken up when the
next parameter comes, or the end. -/
def read (given : Given) (awaited : Option (Parameter × Option String)) :
    List String → Except Error Given
  | [] => given.settle awaited
  | arg :: rest =>
    if arg = "--" then
      if rest = [] then given.settle awaited else .error .unknownArgument
    else
      match Word.ofText arg with
      | .letters => .error .unknownArgument
      | .plain =>
        match awaited with
        | some (p, none) => read given (some (p, some arg)) rest
        | _ => .error .unknownArgument
      | .parameter name value =>
        match Parameter.ofName? name with
        | none => .error .unknownArgument
        | some p =>
          if p.valueKind?.isSome then do
            let given ← given.settle awaited
            match value with
            | some v => read (← given.add p v) none rest
            | none => read given (some (p, none)) rest
          else
            match value with
            | some _ => .error .unexpectedValue
            | none => do read (← (← given.settle awaited).add p "") none rest

/-- Adds what is set in the environment and was not given. -/
def addEnvironment (environment : String → Option String) (given : Given) : Except Error Given :=
  Parameter.all.foldlM
    (fun given p =>
      match p.environmentName?.bind environment with
      | some value => if (given.lookup p).isSome then .ok given else given.add p value
      | none => .ok given)
    given

/-- How the controller is run. -/
structure Settings where
  admissionControllerDisabled : Bool
  /-- The only namespace that is watched. -/
  watchNamespace : Option String
  logFormat : LogFormat
  deriving DecidableEq, Repr

namespace Settings

def ofGiven (given : Given) : Settings where
  admissionControllerDisabled := (given.lookup .admissionControllerDisabled).isSome
  watchNamespace := given.lookup .watchNamespace
  logFormat := ((given.lookup .logFormat).bind LogFormat.ofText?).getD .plain

/-- The settings of a command line and an environment. -/
def ofArguments (args : List String) (environment : String → Option String) :
    Except Error Settings := do
  return ofGiven (← addEnvironment environment (← read [] none args))

end Settings

end DeviceOnboard.CommandLine
