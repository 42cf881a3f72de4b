import DeviceOnboard.Proofs.DecodedMembers
import DeviceOnboard.Schema.Basic
import Mathlib.Algebra.Order.Ring.Rat
import Mathlib.Algebra.Field.Rat

/-!
# Values that a schema admits

A schema is published as an object, and the API reads that object: a value is admitted when every
keyword of the object holds of it. What a format demands is left open, since the API takes a format
for a note. From this the meaning of each kind of schema follows.
-/
namespace DeviceOnboard

namespace Json

/-- The number that a value is. -/
def number? : Json → Option ℚ
  | .int n => some n
  | .float x => some ((if x.negative then -1 else 1) * x.significand * (2 : ℚ) ^ x.exponent)
  | _ => none

/-- The elements of a list. -/
def elements : Json → List Json
  | .arr l => l
  | _ => []

/-- Whether a value is of a type that a schema can name. Integers have 64 bits. -/
def HasType (type : String) : Json → Prop
  | .null => False
  | .bool _ => type = "boolean"
  | .int n =>
    type = "number" ∨ type = "integer" ∧ -9223372036854775808 ≤ n ∧ n ≤ 9223372036854775807
  | .float _ => type = "number"
  | .str _ => type = "string"
  | .arr _ => type = "array"
  | .obj _ => type = "object"

end Json

namespace Schema

open DeviceOnboard.Json

/-! ## Validity -/

/-- The published schema `doc` admits a value, where `inFormat` says which values have a format. A
schema that is nullable admits `null` whatever else it says. -/
inductive Admits (inFormat : String → Json → Prop) : (doc value : Json) → Prop where
  | null {doc : Json} (nullable : doc.get? "nullable" = some (.bool true)) :
      Admits inFormat doc .null
  | value {doc v : Json}
      (type : ∀ t, doc.get? "type" = some (.str t) → v.HasType t)
      (format : ∀ f, doc.get? "format" = some (.str f) → inFormat f v)
      (choice : ∀ choices, doc.get? "enum" = some (.arr choices) → v ∈ choices)
      (minimum : ∀ low, doc.get? "minimum" = some low → ∀ a ∈ low.number?, ∀ n ∈ v.number?, a ≤ n)
      (maximum : ∀ top, doc.get? "maximum" = some top → ∀ a ∈ top.number?, ∀ n ∈ v.number?, n ≤ a)
      (items : ∀ item, doc.get? "items" = some item → ∀ x ∈ v.elements, Admits inFormat item x)
      (distinct : (v.members.map (·.1)).Nodup)
      (required : ∀ keys, doc.get? "required" = some (.arr keys) → v.HasType "object" →
        ∀ key, .str key ∈ keys → key ∈ v.members.map (·.1))
      (properties : ∀ ps, doc.get? "properties" = some ps → ∀ m ∈ v.members,
        ∀ s, ps.get? m.1 = some s → Admits inFormat s m.2)
      (closed : doc.get? "additionalProperties" = some (.bool false) → ∀ m ∈ v.members,
        ∃ ps s, doc.get? "properties" = some ps ∧ ps.get? m.1 = some s)
      (others : ∀ s, doc.get? "additionalProperties" = some s → ∀ m ∈ v.members,
        (∀ ps, doc.get? "properties" = some ps → ps.get? m.1 = none) → Admits inFormat s m.2) :
      Admits inFormat doc v

variable {inFormat : String → Json → Prop} {v : Json}

/-! ## Keywords -/

theorem get?_toJson (s : Schema) (key : String) :
    s.toJson.get? key = findValue? key s.members.reverse :=
  findValue?_sortEntries key s.members

theorem members_choice (names : List String) : (choice names).members =
    [("enum", .arr (names.map .str)), ("type", .str "string")] := rfl

theorem members_integer (format : String) (minimum : Option Int) :
    (integer format minimum).members = ("format", .str format) ::
      (Members.opt "minimum" minimum boundJson ++ [("type", .str "integer")]) := rfl

theorem members_list (item : Schema) :
    (list item).members = [("items", item.toJson), ("type", .str "array")] := rfl

theorem members_dictionary (value : Schema) : (dictionary value).members =
    [("additionalProperties", value.toJson), ("type", .str "object")] := rfl

theorem members_object (ps : List (String × Schema)) (required : List String) :
    (object ps required).members = ("properties", .obj (sortEntries (propertyMembers ps))) ::
      ((if required.isEmpty then [] else [("required", .strings required)]) ++
        [("type", .str "object")]) := by
  simp [members, Members.one]

/-! ## Scalars -/

/-- A schema that only names a type admits the values of the type. -/
theorem admits_type_iff {s : Schema} {type : String} (named : s.members = [("type", .str type)])
    (scalar : type ≠ "object") : Admits inFormat s.toJson v ↔ v.HasType type := by
  have keywords (key : String) : s.toJson.get? key =
      if "type" = key then some (.str type) else none := by
    simp [get?_toJson, named, findValue?_cons, findValue?_nil]
  constructor
  · intro h
    cases h with
    | null nullable => simp [keywords] at nullable
    | value typed => exact typed type (by simp [keywords])
  · intro h
    apply Admits.value
    case distinct =>
      cases v <;> simp_all [HasType, Json.members]
    all_goals simp [keywords, h]

theorem admits_string_iff : Admits inFormat string.toJson v ↔ ∃ s, v = .str s := by
  rw [admits_type_iff rfl (by decide)]
  cases v <;> simp [HasType]

theorem admits_boolean_iff : Admits inFormat boolean.toJson v ↔ ∃ b, v = .bool b := by
  rw [admits_type_iff rfl (by decide)]
  cases v <;> simp [HasType]

theorem admits_choice_iff {names : List String} :
    Admits inFormat (choice names).toJson v ↔ ∃ name ∈ names, v = .str name := by
  have keywords (key : String) : (choice names).toJson.get? key =
      if "type" = key then some (.str "string")
      else if "enum" = key then some (.arr (names.map .str)) else none := by
    simp [get?_toJson, members_choice, findValue?_cons, findValue?_nil]
  constructor
  · intro h
    cases h with
    | null nullable => simp [keywords] at nullable
    | value type format choice =>
      obtain ⟨name, member, rfl⟩ := List.mem_map.mp (choice (names.map .str) (by simp [keywords]))
      exact ⟨name, member, rfl⟩
  · intro h
    obtain ⟨name, member, rfl⟩ := h
    apply Admits.value <;> simp [keywords, HasType, elements, Json.members, member]

theorem admits_integer_iff {format : String} {minimum : Option Int} :
    Admits inFormat (integer format minimum).toJson v ↔
      ∃ n, v = .int n ∧ (-9223372036854775808 ≤ n ∧ n ≤ 9223372036854775807) ∧
        inFormat format v ∧ ∀ low ∈ minimum, ∀ a ∈ (boundJson low).number?, a ≤ n := by
  have keywords (key : String) : (integer format minimum).toJson.get? key =
      if "type" = key then some (.str "integer")
      else (if "minimum" = key then minimum.map boundJson else none).or
        (if "format" = key then some (.str format) else none) := by
    cases minimum <;>
      simp [get?_toJson, members_integer, Members.opt, findValue?_cons, findValue?_nil]
    split_ifs <;> rfl
  constructor
  · intro h
    cases h with
    | null nullable => simp [keywords] at nullable
    | value type formatted choice least =>
      have typed := type "integer" (by simp [keywords])
      have kept := formatted format (by simp [keywords])
      cases v with
      | int n =>
        have range : -9223372036854775808 ≤ n ∧ n ≤ 9223372036854775807 := by
          simpa [HasType] using typed
        refine ⟨n, rfl, range, kept, fun low is a number => ?_⟩
        have written : (integer format minimum).toJson.get? "minimum" = some (boundJson low) := by
          rw [keywords]
          simp [Option.mem_def.mp is]
        exact least (boundJson low) written a number n rfl
      | _ => simp [HasType] at typed
  · intro h
    obtain ⟨n, rfl, range, kept, least⟩ := h
    apply Admits.value
    case minimum =>
      intro top written a number m same
      cases same
      have bound : ∃ low, minimum = some low ∧ boundJson low = top := by
        simpa [keywords] using written
      obtain ⟨low, is, rfl⟩ := bound
      exact least low is a number
    all_goals simp [keywords, HasType, elements, Json.members, kept, range]

/-! ## Lists and objects -/

theorem admits_list_iff {item : Schema} : Admits inFormat (list item).toJson v ↔
    ∃ l, v = .arr l ∧ ∀ x ∈ l, Admits inFormat item.toJson x := by
  have keywords (key : String) : (list item).toJson.get? key =
      if "type" = key then some (.str "array")
      else if "items" = key then some item.toJson else none := by
    simp [get?_toJson, members_list, findValue?_cons, findValue?_nil]
  constructor
  · intro h
    cases h with
    | null nullable => simp [keywords] at nullable
    | value type _ _ _ _ items =>
      have typed := type "array" (by simp [keywords])
      cases v with
      | arr l => exact ⟨l, rfl, items item.toJson (by simp [keywords])⟩
      | _ => simp [HasType] at typed
  · intro h
    obtain ⟨l, rfl, each⟩ := h
    apply Admits.value
    case items => simpa [keywords, elements] using each
    all_goals simp [keywords, HasType, Json.members, number?]

theorem admits_dictionary_iff {value : Schema} : Admits inFormat (dictionary value).toJson v ↔
    ∃ ms, v = .obj ms ∧ (ms.map (·.1)).Nodup ∧ ∀ m ∈ ms, Admits inFormat value.toJson m.2 := by
  have keywords (key : String) : (dictionary value).toJson.get? key =
      if "type" = key then some (.str "object")
      else if "additionalProperties" = key then some value.toJson else none := by
    simp [get?_toJson, members_dictionary, findValue?_cons, findValue?_nil]
  constructor
  · intro h
    cases h with
    | null nullable => simp [keywords] at nullable
    | value type _ _ _ _ _ distinct _ _ _ others =>
      have typed := type "object" (by simp [keywords])
      cases v with
      | obj ms =>
        refine ⟨ms, rfl, distinct, fun m member => ?_⟩
        exact others value.toJson (by simp [keywords]) m member (by simp [keywords])
      | _ => simp [HasType] at typed
  · intro h
    obtain ⟨ms, rfl, distinct, each⟩ := h
    apply Admits.value
    case distinct => exact distinct
    case others =>
      intro s written m member _
      have same : value.toJson = s := by simpa [keywords] using written
      exact same ▸ each m member
    case closed =>
      intro written
      rw [keywords] at written
      simp [toJson] at written
    all_goals simp [keywords, HasType, elements, number?]

/-- The members of an object have the properties of a schema. -/
structure AdmitsMembers (inFormat : String → Json → Prop) (ps : List (String × Schema))
    (required : List String) (ms : Members) : Prop where
  distinct : (ms.map (·.1)).Nodup
  required : ∀ key ∈ required, key ∈ ms.map (·.1)
  values : ∀ p ∈ ps, ∀ x, (p.1, x) ∈ ms → Admits inFormat p.2.toJson x

theorem propertyMembers_eq_map (ps : List (String × Schema)) :
    propertyMembers ps = ps.map fun p => (p.1, p.2.toJson) := by
  induction ps with
  | nil => rfl
  | cons p ps ih =>
    rw [propertyMembers, ih]
    rfl

theorem findValue?_properties {ps : List (String × Schema)} (names : (ps.map (·.1)).Nodup)
    {key : String} {doc : Json} :
    findValue? key (sortEntries (propertyMembers ps)) = some doc ↔
      ∃ s, (key, s) ∈ ps ∧ s.toJson = doc := by
  have names' : ((propertyMembers ps).map (·.1)).Nodup := by
    rwa [propertyMembers_eq_map, List.map_map]
  rw [findValue?_sortEntries, findValue?_reverse key names', findValue?_eq_some_iff names',
    propertyMembers_eq_map]
  simp

theorem get?_object (ps : List (String × Schema)) (required : List String) (key : String) :
    (object ps required).toJson.get? key =
      if "type" = key then some (.str "object")
      else (if "required" = key ∧ required ≠ [] then some (.strings required) else none).or
        (if "properties" = key then some (.obj (sortEntries (propertyMembers ps))) else none) := by
  cases required <;> simp [get?_toJson, members_object, findValue?_cons, findValue?_nil]
  split_ifs <;> rfl

theorem admits_object_iff {ps : List (String × Schema)} {required : List String}
    (names : (ps.map (·.1)).Nodup) : Admits inFormat (object ps required).toJson v ↔
      ∃ ms, v = .obj ms ∧ AdmitsMembers inFormat ps required ms := by
  have keywords := get?_object ps required
  constructor
  · intro h
    cases h with
    | null nullable => simp [keywords] at nullable
    | value type _ _ _ _ _ distinct needed properties =>
      have typed := type "object" (by simp [keywords])
      cases v with
      | obj ms =>
        refine ⟨ms, rfl, distinct, fun key member => ?_, fun p member x present => ?_⟩
        · refine needed (required.map .str) ?_ rfl key (List.mem_map_of_mem member)
          simp [keywords, List.ne_nil_of_mem member, strings]
        · have written : (object ps required).toJson.get? "properties" =
              some (.obj (sortEntries (propertyMembers ps))) := by simp [keywords]
          have found := (findValue?_properties names).mpr ⟨p.2, member, rfl⟩
          exact properties _ written (p.1, x) present _ found
      | _ => simp [HasType] at typed
  · intro h
    obtain ⟨ms, rfl, has⟩ := h
    apply Admits.value
    case distinct => exact has.distinct
    case required =>
      intro keys written _ key member
      have same : keys = required.map .str := by
        simp [keywords, strings] at written
        exact written.2.symm
      rw [same] at member
      obtain ⟨key', inside, same⟩ := List.mem_map.mp member
      cases same
      exact has.required key inside
    case properties =>
      intro doc written m present s found
      have same : .obj (sortEntries (propertyMembers ps)) = doc := by
        simpa [keywords] using written
      rw [← same] at found
      obtain ⟨s, member, rfl⟩ := (findValue?_properties names).mp found
      exact has.values (m.1, s) member m.2 present
    all_goals simp [keywords, HasType, elements, number?]

/-- An object is admitted when each of its members has the property of its key, if there is one. -/
theorem admits_object {ps : List (String × Schema)} {required : List String} {ms : Members}
    (names : (ps.map (·.1)).Nodup) (distinct : (ms.map (·.1)).Nodup)
    (needed : ∀ key ∈ required, key ∈ ms.map (·.1))
    (each : ∀ m ∈ ms, ∀ s, (m.1, s) ∈ ps → Admits inFormat s.toJson m.2) :
    Admits inFormat (object ps required).toJson (.obj ms) :=
  (admits_object_iff names).mpr ⟨ms, rfl, distinct, needed,
    fun p property x member => each (p.1, x) member p.2 property⟩

/-! ## Notes -/

/-- The keys of a schema that say something about values, but for the one that allows `null`. -/
def keywords : List String :=
  ["type", "format", "enum", "minimum", "maximum", "items", "required", "properties",
    "additionalProperties"]

theorem Admits.transfer {doc doc' : Json} (h : Admits inFormat doc v)
    (same : ∀ key ∈ keywords, doc'.get? key = doc.get? key)
    (null : v = .null → doc.get? "nullable" = some (.bool true) → Admits inFormat doc' v) :
    Admits inFormat doc' v := by
  cases h with
  | null nullable => exact null rfl nullable
  | value type format choice minimum maximum items distinct required properties closed others =>
    apply Admits.value
    case distinct => exact distinct
    case type => rwa [same "type" (by decide)]
    case format => rwa [same "format" (by decide)]
    case choice => rwa [same "enum" (by decide)]
    case minimum => rwa [same "minimum" (by decide)]
    case maximum => rwa [same "maximum" (by decide)]
    case items => rwa [same "items" (by decide)]
    case required => rwa [same "required" (by decide)]
    case properties => rwa [same "properties" (by decide)]
    case closed =>
      rwa [same "additionalProperties" (by decide), same "properties" (by decide)]
    case others =>
      rwa [same "additionalProperties" (by decide), same "properties" (by decide)]

theorem get?_noted (notes : Notes) (s : Schema) (key : String) : (noted notes s).toJson.get? key =
    (s.toJson.get? key).or (findValue? key notes.members.reverse) := by
  rw [get?_toJson, get?_toJson, members, List.reverse_append, findValue?_append]

theorem Notes.key_of_mem {notes : Notes} {m : String × Json} (h : m ∈ notes.members) :
    m.1 ∈ ["title", "description", "default", "nullable"] := by
  obtain ⟨title, description, value, nullable⟩ := notes
  cases title <;> cases description <;> cases value <;> cases nullable <;>
    simp [Notes.members, Members.join, Members.opt, Members.one] at h <;> grind

theorem Notes.find_keyword {notes : Notes} {key : String} (keyword : key ∈ keywords) :
    findValue? key notes.members.reverse = none := by
  have other : ∀ note ∈ ["title", "description", "default", "nullable"], note ∉ keywords := by
    decide
  simp only [findValue?, Option.map_eq_none_iff, List.find?_eq_none, List.mem_reverse, beq_iff_eq]
  intro m member same
  exact other m.1 (key_of_mem member) (same ▸ keyword)

theorem Notes.find_nullable (notes : Notes) : findValue? "nullable" notes.members.reverse =
    if notes.nullable then some (.bool true) else none := by
  obtain ⟨title, description, value, nullable⟩ := notes
  cases title <;> cases description <;> cases value <;> cases nullable <;>
    simp [Notes.members, Members.join, Members.opt, Members.one, findValue?_cons, findValue?_nil]

theorem get?_nullable (s : Schema) :
    s.toJson.get? "nullable" = none ∨ s.toJson.get? "nullable" = some (.bool true) := by
  match s with
  | string | formatted _ | choice _ | boolean | list _ | dictionary _ =>
    left
    simp [get?_toJson, members, Members.one, findValue?_cons, findValue?_nil]
  | integer format minimum =>
    left
    cases minimum <;>
      simp [get?_toJson, members_integer, Members.opt, findValue?_cons, findValue?_nil]
  | object ps required =>
    left
    cases required <;> simp [get?_toJson, members_object, findValue?_cons, findValue?_nil]
  | noted notes s =>
    rw [get?_noted, notes.find_nullable]
    rcases get?_nullable s with absent | present
    · cases h : notes.nullable <;> simp [absent]
    · simp [present]

theorem get?_noted_keyword {notes : Notes} {s : Schema} {key : String} (keyword : key ∈ keywords) :
    (noted notes s).toJson.get? key = s.toJson.get? key := by
  rw [get?_noted, Notes.find_keyword keyword, Option.or_none]

theorem get?_annotate {change : Notes → Notes} {s : Schema} {key : String}
    (keyword : key ∈ keywords) : (s.annotate change).toJson.get? key = s.toJson.get? key := by
  unfold annotate
  split <;> simp only [get?_noted_keyword keyword]

/-- Notes say nothing about values, but for the one that allows `null`. -/
theorem admits_noted_iff {notes : Notes} {s : Schema} : Admits inFormat (noted notes s).toJson v ↔
    notes.nullable = true ∧ v = .null ∨ Admits inFormat s.toJson v := by
  have same : ∀ key ∈ keywords, (noted notes s).toJson.get? key = s.toJson.get? key :=
    fun _ keyword => get?_noted_keyword keyword
  have nullable : (noted notes s).toJson.get? "nullable" = some (.bool true) ↔
      notes.nullable = true ∨ s.toJson.get? "nullable" = some (.bool true) := by
    rw [get?_noted, notes.find_nullable]
    rcases get?_nullable s with absent | present
    · simp [absent]
    · simp [present]
  constructor
  · intro h
    by_cases allowed : notes.nullable = true ∧ v = .null
    · exact .inl allowed
    · refine .inr (h.transfer (fun key keyword => (same key keyword).symm) fun is written => ?_)
      subst is
      rcases nullable.mp written with noted | plain
      · exact absurd ⟨noted, rfl⟩ allowed
      · exact .null plain
  · intro h
    rcases h with ⟨noted, rfl⟩ | admitted
    · exact .null (nullable.mpr (.inl noted))
    · refine admitted.transfer same fun is written => ?_
      subst is
      exact .null (nullable.mpr (.inr written))

/-- What is changed about the notes does not matter, as long as it does not allow `null`. -/
theorem admits_annotate_iff {change : Notes → Notes} {s : Schema}
    (same : ∀ n, (change n).nullable = n.nullable) :
    Admits inFormat (s.annotate change).toJson v ↔ Admits inFormat s.toJson v := by
  cases s with
  | noted notes s => rw [annotate, admits_noted_iff, admits_noted_iff, same]
  | _ => simp [annotate, admits_noted_iff, same]

theorem admits_described_iff {s : Schema} {text : String} :
    Admits inFormat (s.described text).toJson v ↔ Admits inFormat s.toJson v :=
  admits_annotate_iff fun _ => rfl

theorem admits_withDefault_iff {s : Schema} {value : Json} :
    Admits inFormat (s.withDefault value).toJson v ↔ Admits inFormat s.toJson v :=
  admits_annotate_iff fun _ => rfl

theorem admits_nullable_iff {s : Schema} :
    Admits inFormat s.nullable.toJson v ↔ v = .null ∨ Admits inFormat s.toJson v := by
  unfold nullable annotate
  split
  · rw [admits_noted_iff, admits_noted_iff]
    simp only [true_and, ← or_assoc]
    grind
  · simp [admits_noted_iff]

end Schema

end DeviceOnboard
