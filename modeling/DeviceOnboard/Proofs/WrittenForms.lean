import DeviceOnboard.Proofs.DecodedMembers

/-!
# The form of what is written

Values are written in one way only: the members of an object stand in a fixed order, options that
are not set are left out, and so are some lists when they are empty. A `Form` says this of a type.
What has a form is read back member by member, whatever the order in which a record has its fields.
-/
namespace DeviceOnboard.Json

variable {α β : Type}

/-! ## Forms -/

/-- When a field is written. -/
inductive Presence where
  | always
  /-- When the field is set. -/
  | set
  /-- When the list in the field is not empty. -/
  | filled
  deriving DecidableEq, Repr

/-- How the values of a type are written. -/
inductive Form where
  /-- A string, an integer or a truth value. -/
  | scalar
  | list (element : Form)
  | dictionary
  /-- An object with the given fields in this order. -/
  | object (fields : List (String × Presence × Form))
  deriving Repr

mutual

inductive Written : Form → Json → Prop where
  | text (s : String) : Written .scalar (.str s)
  | number (n : Int) : Written .scalar (.int n)
  | truth (b : Bool) : Written .scalar (.bool b)
  | list {form : Form} {items : List Json} (each : ∀ j ∈ items, Written form j) :
      Written (.list form) (.arr items)
  | dictionary (d : Dictionary String) : Written .dictionary (.dict d)
  | object {fields : List (String × Presence × Form)} {ms : Members}
      (members : WrittenMembers fields ms) : Written (.object fields) (.obj ms)

inductive WrittenMembers : List (String × Presence × Form) → Members → Prop where
  | nil : WrittenMembers [] []
  | absent {key : String} {presence : Presence} {form : Form}
      {fields : List (String × Presence × Form)} {ms : Members} (may : presence ≠ .always)
      (rest : WrittenMembers fields ms) : WrittenMembers ((key, presence, form) :: fields) ms
  | present {key : String} {presence : Presence} {form : Form} {j : Json}
      {fields : List (String × Presence × Form)} {ms : Members} (written : Written form j)
      (filled : presence = .filled → j ≠ .arr []) (rest : WrittenMembers fields ms) :
      WrittenMembers ((key, presence, form) :: fields) ((key, j) :: ms)

end

theorem Written.ne_null {form : Form} {j : Json} (h : Written form j) : j ≠ .null := by
  cases h <;> exact Json.noConfusion

section

variable {key : String} {form : Form} {fields : List (String × Presence × Form)} {ms : Members}
  {groups : List Members}

/-- Members stand in the order of the fields. -/
theorem WrittenMembers.keys (h : WrittenMembers fields ms) :
    (ms.map (·.1)).Sublist (fields.map (·.1)) := by
  induction fields generalizing ms with
  | nil =>
    cases h
    exact .refl _
  | cons field fields ih =>
    cases h with
    | absent may rest => exact (ih rest).cons _
    | present written filled rest => exact (ih rest).cons_cons _

theorem WrittenMembers.distinct (h : WrittenMembers fields ms)
    (distinct : (fields.map (·.1)).Nodup) : (ms.map (·.1)).Nodup :=
  distinct.sublist h.keys

theorem WrittenMembers.known (h : WrittenMembers fields ms) :
    ∀ m ∈ ms, m.1 ∈ fields.map (·.1) :=
  fun _ member => h.keys.subset (List.mem_map_of_mem member)

theorem written_nil : WrittenMembers [] (Members.join []) := .nil

theorem written_one {j : Json} (value : Written form j)
    (rest : WrittenMembers fields (Members.join groups)) :
    WrittenMembers ((key, .always, form) :: fields) (Members.join (.one key j :: groups)) :=
  .present value nofun rest

theorem written_opt {value : Option α} {write : α → Json}
    (each : ∀ a, value = some a → Written form (write a))
    (rest : WrittenMembers fields (Members.join groups)) :
    WrittenMembers ((key, .set, form) :: fields)
      (Members.join (.opt key value write :: groups)) := by
  cases value with
  | none => exact .absent nofun rest
  | some a => exact .present (each a rfl) nofun rest

theorem written_many {items : List α} {write : α → Json}
    (each : ∀ a ∈ items, Written form (write a))
    (rest : WrittenMembers fields (Members.join groups)) :
    WrittenMembers ((key, .filled, .list form) :: fields)
      (Members.join (.many key items write :: groups)) := by
  cases items with
  | nil => exact .absent nofun rest
  | cons a items =>
    refine .present (.list fun j member => ?_) (fun _ => by simp) rest
    obtain ⟨b, inside, rfl⟩ := List.mem_map.mp member
    exact each b inside

end

/-! ## What the members hold -/

section

variable (name key : String) (groups : List Members)

@[simp]
theorem findValue?_join_nil : findValue? name (Members.join []) = none := rfl

@[simp]
theorem findValue?_join_one (j : Json) : findValue? name (Members.join (.one key j :: groups)) =
    if key = name then some j else findValue? name (Members.join groups) :=
  findValue?_cons name key j _

@[simp]
theorem findValue?_join_opt (value : Option α) (write : α → Json) :
    findValue? name (Members.join (.opt key value write :: groups)) =
      if key = name then (value.map write).or (findValue? name (Members.join groups))
      else findValue? name (Members.join groups) := by
  cases value with
  | none => simp [Members.opt, Members.join]
  | some a =>
    show findValue? name ((key, write a) :: Members.join groups) = _
    rw [findValue?_cons, Option.map_some, Option.some_or]

@[simp]
theorem findValue?_join_many (items : List α) (write : α → Json) :
    findValue? name (Members.join (.many key items write :: groups)) =
      if key = name ∧ items ≠ [] then some (.arr (items.map write))
      else findValue? name (Members.join groups) := by
  cases items with
  | nil => simp [Members.many, Members.join]
  | cons a items =>
    show findValue? name ((key, Json.arr ((a :: items).map write)) :: Members.join groups) = _
    simp [findValue?_cons]

end

/-! ## Reading back -/

/-- A value is written in a form, and read back from it. -/
structure Carries (d : Decoder α) (form : Form) (j : Json) (a : α) : Prop where
  written : Written form j
  back : Json.decode d j = .ok a

section

variable {d : Decoder α} {form : Form}

theorem carries_string (s : String) : Carries .string .scalar (.str s) s := ⟨.text s, rfl⟩

theorem carries_boolean (b : Bool) : Carries .boolean .scalar (.bool b) b := ⟨.truth b, rfl⟩

theorem decode_integer {low high n : Int} (typeName : String) (above : low ≤ n)
    (below : n ≤ high) : Json.decode (Decoder.integer low high typeName) (.int n) = .ok n := by
  unfold Json.decode Decoder.integer
  simp [Input.ofJson, above, below]

theorem carries_int32 (n : Int32) :
    Carries (Decoder.int32.map Int32.ofInt) .scalar (.int n.toInt) n where
  written := .number _
  back := by
    have low := n.le_toInt
    have high := n.toInt_lt
    have read := decode_map (f := Int32.ofInt)
      (decode_integer "i32" (n := n.toInt) (by omega) (show _ ≤ 2147483647 by omega))
    rwa [Int32.ofInt_toInt] at read

theorem carries_int64 (n : Int64) :
    Carries (Decoder.int64.map Int64.ofInt) .scalar (.int n.toInt) n where
  written := .number _
  back := by
    have low := n.le_toInt
    have high := n.toInt_lt
    have read := decode_map (f := Int64.ofInt)
      (decode_integer "i64" (n := n.toInt) (by omega) (show _ ≤ 9223372036854775807 by omega))
    rwa [Int64.ofInt_toInt] at read

theorem carries_uint16 (n : UInt16) : Carries .uint16 .scalar (.int n.toNat) n where
  written := .number _
  back := by
    have high := n.toNat_lt
    have read : Json.decode Decoder.uint16 (.int n.toNat) = .ok (n.toNat : Int).toNat.toUInt16 :=
      decode_map (decode_integer "u16" (by omega) (by omega))
    simpa using read

theorem carries_list {l : List β} {write : β → Json} {f : β → α}
    (each : ∀ b ∈ l, Carries d form (write b) (f b)) :
    Carries (Decoder.list d) (.list form) (.arr (l.map write)) (l.map f) where
  written := .list fun j member => by
    obtain ⟨b, inside, rfl⟩ := List.mem_map.mp member
    exact (each b inside).written
  back := decode_list fun b inside => (each b inside).back

/-- A list whose elements are read back is read back. -/
theorem carries_items {l : List α} {write : α → Json}
    (each : ∀ a ∈ l, Carries d form (write a) a) :
    Carries (Decoder.list d) (.list form) (.arr (l.map write)) l := by
  have mapped := carries_list (f := id) each
  rwa [List.map_id] at mapped

theorem carries_strings (l : List String) :
    Carries (Decoder.list .string) (.list .scalar) (.strings l) l :=
  carries_items fun s _ => carries_string s

theorem carries_dict (dict : Dictionary String) :
    Carries (Decoder.dictionary .string) .dictionary (.dict dict) dict where
  written := .dictionary dict
  back := by
    have each (l : List (String × String)) : Decoder.eachMember Decoder.string .value
        (Input.ofMembers (l.map fun e => (e.1, .str e.2))) = .ok l := by
      induction l with
      | nil => rfl
      | cons e l ih =>
        rw [List.map_cons, Input.ofMembers, Decoder.eachMember]
        simp only [Input.ofJson, Decoder.string, ih]
        rfl
    unfold Json.decode Decoder.dictionary
    simp only [Json.dict, Input.ofJson, each, Input.ending, syntactic, Dictionary.ofList_entries]

theorem carries_intOrString (x : IntOrString) :
    Carries IntOrString.decode .scalar x.toJson x := by
  cases x with
  | string s => exact ⟨.text s, rfl⟩
  | int n =>
    refine ⟨.number _, ?_⟩
    have low := n.le_toInt
    have high := n.toInt_lt
    unfold Json.decode IntOrString.decode IntOrString.toJson
    simp only [Input.ofJson]
    rw [if_pos (by simp only [Bool.and_eq_true, decide_eq_true_eq]; omega), Int32.ofInt_toInt]

end

/-! ### Fields and records -/

namespace Record

variable {d : Decoder α} {form : Form} {ms : Members} {name : String}

/-- A field is read from what is written when it is set. -/
theorem reads_opt {value : Option α} {write : α → Json} (distinct : (ms.map (·.1)).Nodup)
    (found : findValue? name ms = value.map write)
    (each : ∀ a, value = some a → Carries d form (write a) a) :
    Reads (optional name d) ms value := by
  cases value with
  | none => exact reads_optional_none distinct found
  | some a =>
    have carries := each a rfl
    exact reads_optional_some distinct found carries.back carries.written.ne_null

/-- A list field is read from what is written when the list is not empty. -/
theorem reads_many {aliases : List String} {items : List β} {write : β → Json} {l : List α}
    (distinct : (ms.map (·.1)).Nodup) (plain : ∀ m ∈ ms, m.1 ∉ aliases)
    (found : findValue? name ms = if items ≠ [] then some (.arr (items.map write)) else none)
    (carries : Carries (Decoder.list d) form (.arr (items.map write)) l) :
    Reads (field name aliases true (.list d) (.ok [])) ms l := by
  refine reads_field distinct plain (fun j present => ?_) fun missing => ?_
  · have written : j = .arr (items.map write) := by grind
    rw [written]
    exact carries.back
  · have empty : items = [] := by grind
    have back := carries.back
    rwa [empty] at back

/-- A record is carried by its members, which may stand in any order. -/
theorem carries_record {r : Record α} {fields : List (String × Presence × Form)} {a : α}
    (typeName : String) (written : WrittenMembers fields ms) (keys : (fields.map (·.1)).Nodup)
    (reads : (ms.map (·.1)).Nodup → (∀ m ∈ ms, m.1 ∈ fields.map (·.1)) → Reads r ms a) :
    Carries (r.decode typeName) (.object fields) (.obj ms) a :=
  ⟨.object written,
    (reads (written.distinct keys) written.known).decode typeName (written.distinct keys)⟩

theorem carries_kubernetes {r : Record α} {fields : List (String × Presence × Form)} {a : α}
    (typeName : String) (written : WrittenMembers fields ms) (keys : (fields.map (·.1)).Nodup)
    (reads : (ms.map (·.1)).Nodup → (∀ m ∈ ms, m.1 ∈ fields.map (·.1)) → Reads r ms a) :
    Carries (r.decodeKubernetes typeName) (.object fields) (.obj ms) a :=
  ⟨.object written, (reads (written.distinct keys) written.known).decodeKubernetes typeName
    (written.distinct keys)⟩

end Record

end DeviceOnboard.Json
