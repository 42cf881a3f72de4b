import DeviceOnboard.Json.Decode

/-!
# Open objects

Objects of which some members are fields and all others are kept. The members that are kept are
read completely when they are met, and are looked at after the end of the object.
-/
namespace DeviceOnboard.Json.Record

variable {α β : Type}

/-- Checks the members of an object in their order, and yields those that are no fields. -/
def checkOpen (rules : List Rule) (o : Origin) (seen : List String) :
    List (String × Input) → Except DecodeError (List (String × Json))
  | [] => .ok []
  | (k, i) :: ms =>
    match ruleFor rules k with
    | none =>
      match Decoder.any o i with
      | .error e => .error e
      | .ok j => (checkOpen rules o seen ms).map ((k, j) :: ·)
    | some r =>
      if seen.contains r.name then .error (.duplicateField r.name)
      else
        match r.check o i with
        | .error e => .error e
        | .ok _ => checkOpen rules o (r.name :: seen) ms

/-- Decodes an object; what is made of its fields is finished with the other members. -/
def decodeOpen (typeName : String) (r : Record α)
    (finish : α → List (String × Json) → Except DecodeError β) : Decoder β
  | o, .obj ms stop =>
    match checkOpen r.rules o [] ms with
    | .error e => .error e
    | .ok others =>
      match syntactic (Input.ending stop) with
      | .error e => .error e
      | .ok _ =>
        match r.build o (lookup r.rules ms) with
        | .error e => .error e
        | .ok a => finish a others
  | _, i => .error (mismatch ("struct " ++ typeName) i)

/-- Decodes members that were kept. -/
def decodeKept (r : Record α) (others : List (String × Json)) : Except DecodeError α :=
  r.decodeMembers .value (Input.ofMembers others) none

end DeviceOnboard.Json.Record
