import DeviceOnboard.Json.Shape
import Mathlib.Data.List.Nodup

/-!
# Decoding the members of a value

A value that was read before holds no damage, so decoding one of its objects comes down to the
values of the members: when each member that names a field fits it, the record is built from what
the object has for the names of its fields.
-/
namespace DeviceOnboard

variable {α β : Type}

/-! ## Members -/

theorem findValue?_cons (key k : String) (v : α) (entries : List (String × α)) :
    findValue? key ((k, v) :: entries) = if k = key then some v else findValue? key entries := by
  by_cases h : k = key <;> simp [findValue?, h]

theorem findValue?_of_mem {key : String} {v : α} {entries : List (String × α)}
    (distinct : (entries.map (·.1)).Nodup) (member : (key, v) ∈ entries) :
    findValue? key entries = some v := by
  induction entries with
  | nil => cases member
  | cons e rest ih =>
    obtain ⟨k, w⟩ := e
    rw [List.map_cons, List.nodup_cons] at distinct
    rw [findValue?_cons]
    rcases List.mem_cons.mp member with same | member
    · cases same
      rw [if_pos rfl]
    · have other : k ≠ key := by
        rintro rfl
        exact distinct.1 (List.mem_map.mpr ⟨_, member, rfl⟩)
      rw [if_neg other, ih distinct.2 member]

theorem findValue?_eq_some_iff {key : String} {v : α} {entries : List (String × α)}
    (distinct : (entries.map (·.1)).Nodup) :
    findValue? key entries = some v ↔ (key, v) ∈ entries := by
  refine ⟨fun h => ?_, findValue?_of_mem distinct⟩
  obtain ⟨e, found, rfl⟩ := Option.map_eq_some_iff.mp h
  have same : e.1 = key := by simpa using List.find?_some found
  exact same ▸ List.mem_of_find?_eq_some found

/-- The order of entries does not matter when their keys are distinct. -/
theorem findValue?_reverse (key : String) {entries : List (String × α)}
    (distinct : (entries.map (·.1)).Nodup) :
    findValue? key entries.reverse = findValue? key entries := by
  have distinct' : (entries.reverse.map (·.1)).Nodup := by
    rwa [List.map_reverse, List.nodup_reverse]
  refine Option.ext fun v => ?_
  rw [findValue?_eq_some_iff distinct', findValue?_eq_some_iff distinct, List.mem_reverse]

theorem nodup_of_ascending {entries : List (String × α)} (h : Ascending entries) :
    (entries.map (·.1)).Nodup := by
  rw [List.nodup_iff_pairwise_ne, List.pairwise_map]
  refine h.imp fun {a b} lt same => ?_
  rw [same] at lt
  exact String.lt_irrefl _ lt

theorem findValue?_setEntry_self (key : String) (v : α) (entries : List (String × α)) :
    findValue? key (setEntry key v entries) = some v := by
  induction entries with
  | nil => simp [setEntry, findValue?]
  | cons e rest ih =>
    obtain ⟨k, w⟩ := e
    unfold setEntry
    split
    · rw [findValue?_cons, if_pos rfl]
    · rename_i other
      split
      · rw [findValue?_cons, if_pos rfl]
      · rw [findValue?_cons, if_neg (Ne.symm other), ih]

theorem findValue?_setEntry_of_ne {key other : String} (different : other ≠ key) (v : α)
    (entries : List (String × α)) :
    findValue? other (setEntry key v entries) = findValue? other entries := by
  induction entries with
  | nil => simp [setEntry, findValue?, different.symm]
  | cons e rest ih =>
    obtain ⟨k, w⟩ := e
    unfold setEntry
    split
    · rename_i same
      subst same
      rw [findValue?_cons, findValue?_cons, if_neg different.symm, if_neg different.symm]
    · split
      · rw [findValue?_cons, if_neg different.symm]
      · rw [findValue?_cons, findValue?_cons, ih]

-- Not by `rfl`: `simp` would then compare all that is found below by unfolding it.
theorem findValue?_nil (key : String) : findValue? key ([] : List (String × α)) = none := by
  simp [findValue?]

theorem findValue?_append (key : String) (l l' : List (String × α)) :
    findValue? key (l ++ l') = (findValue? key l).or (findValue? key l') := by
  simp [findValue?, List.find?_append, Option.map_or]

/-- Of several entries with one key the last is kept. -/
theorem findValue?_sortEntries (key : String) (entries : List (String × α)) :
    findValue? key (sortEntries entries) = findValue? key entries.reverse := by
  have folded (sorted : List (String × α)) :
      findValue? key (entries.foldl (fun sorted e => setEntry e.1 e.2 sorted) sorted) =
        (findValue? key entries.reverse).or (findValue? key sorted) := by
    induction entries generalizing sorted with
    | nil => simp [findValue?]
    | cons e rest ih =>
      rw [List.foldl_cons, ih, List.reverse_cons, findValue?_append, Option.or_assoc,
        findValue?_cons]
      by_cases same : e.1 = key
      · rw [if_pos same, ← same, findValue?_setEntry_self, Option.some_or]
      · rw [if_neg same, findValue?_setEntry_of_ne (Ne.symm same)]
        rfl
  exact (folded []).trans Option.or_none

namespace Json

/-! ## Values -/

mutual

/-- A value holds nothing that cannot be passed over. -/
theorem pass_ofJson (j : Json) : Input.pass (.ofJson j) = .ok () := by
  cases j with
  | arr items =>
    unfold Input.ofJson Input.pass
    rw [passItems_ofItems items]
    rfl
  | obj ms =>
    unfold Input.ofJson Input.pass
    rw [passMembers_ofMembers ms]
    rfl
  | _ => simp [Input.ofJson, Input.pass]

theorem passItems_ofItems (js : List Json) : Input.passItems (Input.ofItems js) = .ok () := by
  cases js with
  | nil => rfl
  | cons j js =>
    unfold Input.ofItems Input.passItems
    rw [pass_ofJson j]
    exact passItems_ofItems js

theorem passMembers_ofMembers (ms : Members) : Input.passMembers (Input.ofMembers ms) = .ok () := by
  cases ms with
  | nil => rfl
  | cons m ms =>
    obtain ⟨k, j⟩ := m
    unfold Input.ofMembers Input.passMembers
    rw [pass_ofJson j]
    exact passMembers_ofMembers ms

end

theorem decode_map {d : Decoder α} {f : α → β} {j : Json} {a : α} (h : decode d j = .ok a) :
    decode (d.map f) j = .ok (f a) := by
  unfold decode Decoder.map at *
  rw [h]
  rfl

theorem decode_nullable {d : Decoder α} {j : Json} {a : α} (h : decode d j = .ok a)
    (present : j ≠ .null) : decode d.nullable j = .ok (some a) := by
  unfold decode at *
  cases j with
  | null => exact absurd rfl present
  | _ =>
    simp only [Input.ofJson] at *
    simp [Decoder.nullable, h, Except.map]

/-- A list is decoded element by element. -/
theorem decode_list {d : Decoder β} {write : α → Json} {f : α → β} {l : List α}
    (h : ∀ a ∈ l, decode d (write a) = .ok (f a)) :
    decode (Decoder.list d) (.arr (l.map write)) = .ok (l.map f) := by
  have each : Decoder.each d .value (Input.ofItems (l.map write)) = .ok (l.map f) := by
    induction l with
    | nil => rfl
    | cons a l ih =>
      have first : d .value (.ofJson (write a)) = .ok (f a) := h a List.mem_cons_self
      rw [List.map_cons, Input.ofItems, Decoder.each, first]
      dsimp only
      rw [ih fun b hb => h b (List.mem_cons_of_mem a hb)]
      rfl
  unfold decode Decoder.list
  simp only [Input.ofJson, each, Input.ending, syntactic]

theorem decode_strings (l : List String) :
    decode (Decoder.list Decoder.string) (Json.strings l) = .ok l := by
  have h : decode (Decoder.list Decoder.string) (.arr (l.map Json.str)) = .ok (l.map id) :=
    decode_list fun _ _ => rfl
  rwa [List.map_id] at h

/-! ## Records -/

namespace Record

/-- No member goes under the second name of a field. -/
def Plain (rules : List Rule) (ms : Members) : Prop := ∀ r ∈ rules, ∀ m ∈ ms, m.1 ∉ r.aliases

theorem Plain.tail {rules : List Rule} {m : String × Json} {ms : Members}
    (h : Plain rules (m :: ms)) : Plain rules ms :=
  fun r hr m' hm => h r hr m' (List.mem_cons_of_mem m hm)

theorem named_iff {r : Rule} {key : String} (plain : key ∉ r.aliases) :
    r.named key = true ↔ r.name = key := by
  simp [Rule.named, plain]

section

variable {rules : List Rule} {key name : String} {j : Json} {ms : Members}

theorem ruleFor_eq_some {r : Rule} (plain : Plain rules ((key, j) :: ms))
    (h : ruleFor rules key = some r) : r ∈ rules ∧ r.name = key := by
  unfold ruleFor at h
  have member := List.mem_of_find?_eq_some h
  have named := List.find?_some h
  exact ⟨member, (named_iff (plain r member _ List.mem_cons_self)).mp named⟩

theorem ruleFor_names (plain : Plain rules ((key, j) :: ms))
    (known : name ∈ rules.map (·.name)) :
    (ruleFor rules key).any (·.name == name) = (key == name) := by
  cases h : ruleFor rules key with
  | some r => simp [(ruleFor_eq_some plain h).2]
  | none =>
    obtain ⟨r, member, rfl⟩ := List.mem_map.mp known
    have other : r.name ≠ key := fun same =>
      absurd ((named_iff (plain r member _ List.mem_cons_self)).mpr same)
        (List.find?_eq_none.mp h r member)
    simpa using other.symm

/-- What a record finds for a name is the value of the member with that key. -/
theorem lookup_ofMembers (plain : Plain rules ms) (known : name ∈ rules.map (·.name)) :
    lookup rules (Input.ofMembers ms) name = (findValue? name ms).map Input.ofJson := by
  induction ms with
  | nil => rfl
  | cons m ms ih =>
    obtain ⟨k, j⟩ := m
    have rest := ih plain.tail
    unfold lookup at rest ⊢
    rw [findValue?_cons, Input.ofMembers, List.find?_cons]
    dsimp only
    rw [ruleFor_names plain known]
    by_cases same : k = name
    · simp [same]
    · rw [if_neg same, beq_false_of_ne same]
      exact rest

/-- The members that name fields fit them. -/
def Fits (rules : List Rule) (ms : Members) : Prop :=
  ∀ r ∈ rules, ∀ j, (r.name, j) ∈ ms → r.check .value (.ofJson j) = .ok ()

theorem checkMembers_ok {seen : List String} (plain : Plain rules ms)
    (distinct : (ms.map (·.1)).Nodup) (fits : Fits rules ms) (unseen : ∀ m ∈ ms, m.1 ∉ seen) :
    checkMembers rules .value seen (Input.ofMembers ms) = .ok () := by
  induction ms generalizing seen with
  | nil => rfl
  | cons m ms ih =>
    obtain ⟨k, j⟩ := m
    rw [List.map_cons, List.nodup_cons] at distinct
    have restFits : Fits rules ms := fun r hr j hj => fits r hr j (List.mem_cons_of_mem _ hj)
    unfold Input.ofMembers checkMembers
    cases h : ruleFor rules k with
    | none =>
      simp only [Decoder.ignored, pass_ofJson, syntactic]
      exact ih plain.tail distinct.2 restFits fun m hm => unseen m (List.mem_cons_of_mem _ hm)
    | some r =>
      obtain ⟨member, rfl⟩ := ruleFor_eq_some plain h
      have new : seen.contains r.name = false := by
        simpa using unseen _ List.mem_cons_self
      have fit := fits r member j List.mem_cons_self
      simp only [new, Bool.false_eq_true, if_false, fit]
      refine ih plain.tail distinct.2 restFits fun m hm => ?_
      rw [List.mem_cons, not_or]
      refine ⟨?_, unseen m (List.mem_cons_of_mem _ hm)⟩
      exact fun same => distinct.1 (List.mem_map.mpr ⟨m, hm, same⟩)

theorem checkRepeated_ok (plain : Plain rules ms) (fits : Fits rules ms) :
    checkRepeated rules .value (Input.ofMembers ms) = .ok () := by
  induction ms with
  | nil => rfl
  | cons m ms ih =>
    obtain ⟨k, j⟩ := m
    have restFits : Fits rules ms := fun r hr j hj => fits r hr j (List.mem_cons_of_mem _ hj)
    unfold Input.ofMembers checkRepeated
    cases h : ruleFor rules k with
    | none =>
      simp only [Decoder.ignored, pass_ofJson, syntactic]
      exact ih plain.tail restFits
    | some r =>
      obtain ⟨member, rfl⟩ := ruleFor_eq_some plain h
      simp only [fits r member j List.mem_cons_self]
      exact ih plain.tail restFits

end

theorem ofMembers_reverse (ms : Members) :
    (Input.ofMembers ms).reverse = Input.ofMembers ms.reverse := by
  have asMap (ms : Members) : Input.ofMembers ms = ms.map fun m => (m.1, Input.ofJson m.2) := by
    induction ms with
    | nil => rfl
    | cons m ms ih =>
      obtain ⟨k, j⟩ := m
      rw [Input.ofMembers, ih]
      rfl
  rw [asMap, asMap, List.map_reverse]

/-! ### Reading a record -/

/-- The members of an object fit a record, which is built as a value from them. -/
structure Reads (r : Record α) (ms : Members) (a : α) : Prop where
  plain : Plain r.rules ms
  fits : Fits r.rules ms
  built : ∀ find : String → Option Input,
    (∀ name ∈ r.rules.map (·.name), find name = (findValue? name ms).map Input.ofJson) →
      r.build .value find = .ok a

variable {ms : Members}

theorem reads_field {name : String} {aliases : List String} {optional : Bool} {d : Decoder α}
    {absent : Except DecodeError α} {a : α} (distinct : (ms.map (·.1)).Nodup)
    (plain : ∀ m ∈ ms, m.1 ∉ aliases)
    (present : ∀ j, findValue? name ms = some j → Json.decode d j = .ok a)
    (missing : findValue? name ms = none → absent = .ok a) :
    Reads (field name aliases optional d absent) ms a where
  plain r member := by
    obtain rfl := List.mem_singleton.mp member
    exact plain
  fits r member j hj := by
    obtain rfl := List.mem_singleton.mp member
    have h : d .value (.ofJson j) = .ok a := present j (findValue?_of_mem distinct hj)
    simp only [h]
    rfl
  built find h := by
    have found := h name (List.mem_singleton_self _)
    simp only [field, found]
    cases hj : findValue? name ms with
    | none => exact missing hj
    | some j => exact present j hj

theorem reads_map {x : Record α} {f : α → β} {a : α} (h : Reads x ms a) :
    Reads (f <$> x) ms (f a) where
  plain := h.plain
  fits := h.fits
  built find names := by
    show (x.build .value find).map f = .ok (f a)
    rw [h.built find names]
    rfl

theorem reads_seq {f : Record (α → β)} {x : Record α} {g : α → β} {a : α} (hf : Reads f ms g)
    (hx : Reads x ms a) : Reads (f <*> x) ms (g a) where
  plain r member := (List.mem_append.mp member).elim (hf.plain r) (hx.plain r)
  fits r member := (List.mem_append.mp member).elim (hf.fits r) (hx.fits r)
  built find names := by
    have inFirst : f.build .value find = .ok g := hf.built find fun name hn =>
      names name (by
        show name ∈ (f.rules ++ x.rules).map (·.name)
        rw [List.map_append]
        exact List.mem_append_left _ hn)
    have inSecond : x.build .value find = .ok a := hx.built find fun name hn =>
      names name (by
        show name ∈ (f.rules ++ x.rules).map (·.name)
        rw [List.map_append]
        exact List.mem_append_right _ hn)
    show (seq f fun _ => x).build .value find = .ok (g a)
    simp only [seq, inFirst, inSecond]
    rfl

/-- An object is decoded as the value that its members are read as. -/
theorem Reads.decode {r : Record α} {a : α} (typeName : String) (h : Reads r ms a)
    (distinct : (ms.map (·.1)).Nodup) : Json.decode (r.decode typeName) (.obj ms) = .ok a := by
  have checked := checkMembers_ok h.plain distinct h.fits fun m _ => List.not_mem_nil
  have built := h.built _ fun name known => lookup_ofMembers h.plain known
  unfold Json.decode Record.decode decodeMembers
  simp only [Input.ofJson, checked, Input.ending, syntactic, built]

theorem Reads.decodeKubernetes {r : Record α} {a : α} (typeName : String) (h : Reads r ms a)
    (distinct : (ms.map (·.1)).Nodup) :
    Json.decode (r.decodeKubernetes typeName) (.obj ms) = .ok a := by
  have checked := checkRepeated_ok h.plain h.fits
  have built := h.built (lookupLast r.rules (Input.ofMembers ms)) fun name known => by
    have plain : Plain r.rules ms.reverse := fun r' hr m hm => h.plain r' hr m (by simpa using hm)
    rw [lookupLast, ofMembers_reverse, lookup_ofMembers plain known,
      findValue?_reverse name distinct]
  unfold Json.decode Record.decodeKubernetes
  simp only [Input.ofJson, checked, Input.ending, syntactic, built]

/-! ### Fields -/

theorem reads_required {name : String} {d : Decoder α} {j : Json} {a : α}
    (distinct : (ms.map (·.1)).Nodup) (found : findValue? name ms = some j)
    (h : Json.decode d j = .ok a) : Reads (required name d) ms a :=
  reads_field distinct (by simp) (fun j' hj => by rwa [← Option.some.inj (found.symm.trans hj)])
    (fun missing => by simp [found] at missing)

theorem reads_defaulted {name : String} {d : Decoder α} {value a : α} {j : Json}
    (distinct : (ms.map (·.1)).Nodup) (found : findValue? name ms = some j)
    (h : Json.decode d j = .ok a) : Reads (defaulted name d value) ms a :=
  reads_field distinct (by simp) (fun j' hj => by rwa [← Option.some.inj (found.symm.trans hj)])
    (fun missing => by simp [found] at missing)

theorem reads_optional_some {name : String} {d : Decoder α} {j : Json} {a : α}
    (distinct : (ms.map (·.1)).Nodup) (found : findValue? name ms = some j)
    (h : Json.decode d j = .ok a) (present : j ≠ .null) : Reads (optional name d) ms (some a) :=
  reads_field distinct (by simp)
    (fun j' hj => by
      rw [← Option.some.inj (found.symm.trans hj)]
      exact decode_nullable h present)
    (fun missing => by simp [found] at missing)

theorem reads_optional_none {name : String} {d : Decoder α} (distinct : (ms.map (·.1)).Nodup)
    (missing : findValue? name ms = none) : Reads (optional name d) ms none :=
  reads_field distinct (by simp) (fun j hj => by simp [missing] at hj) (fun _ => rfl)

theorem reads_orEmpty {name : String} {d : Decoder α} {value a : α} {j : Json}
    (distinct : (ms.map (·.1)).Nodup) (found : findValue? name ms = some j)
    (h : Json.decode d j = .ok a) (present : j ≠ .null) : Reads (orEmpty name d value) ms a :=
  reads_field distinct (by simp)
    (fun j' hj => by
      rw [← Option.some.inj (found.symm.trans hj)]
      exact decode_map (decode_nullable h present))
    (fun missing => by simp [found] at missing)

/-! ### What was read -/

section

variable {o : Origin} {i : Input} {find : String → Option Input}

theorem build_map_ok {x : Record α} {f : α → β} {b : β} (h : (f <$> x).build o find = .ok b) :
    ∃ a, x.build o find = .ok a ∧ f a = b := by
  change (x.build o find).map f = .ok b at h
  cases hx : x.build o find with
  | error e =>
    rw [hx] at h
    cases h
  | ok a =>
    rw [hx] at h
    exact ⟨a, rfl, Except.ok.inj h⟩

theorem build_seq_ok {f : Record (α → β)} {x : Record α} {b : β}
    (h : (f <*> x).build o find = .ok b) :
    ∃ g a, f.build o find = .ok g ∧ x.build o find = .ok a ∧ g a = b := by
  change (seq f fun _ => x).build o find = .ok b at h
  simp only [seq] at h
  cases hf : f.build o find with
  | error e =>
    rw [hf] at h
    cases h
  | ok g =>
    rw [hf] at h
    obtain ⟨a, hx, same⟩ := build_map_ok (x := x) (f := g) h
    exact ⟨g, a, rfl, hx, same⟩

/-- A value of a record was built from what some names stood for. -/
theorem decode_ok {r : Record α} {typeName : String} {a : α} (h : r.decode typeName o i = .ok a) :
    ∃ find, r.build o find = .ok a := by
  unfold Record.decode decodeMembers at h
  repeat' split at h
  all_goals first | cases h | exact ⟨_, h⟩

theorem decodeKubernetes_ok {r : Record α} {typeName : String} {a : α}
    (h : r.decodeKubernetes typeName o i = .ok a) : ∃ find, r.build o find = .ok a := by
  unfold decodeKubernetes at h
  repeat' split at h
  all_goals first | cases h | exact ⟨_, h⟩

end

end Record

/-- The elements of a list that was read were read. -/
theorem list_ok {d : Decoder α} {o : Origin} {i : Input} {l : List α}
    (h : Decoder.list d o i = .ok l) : ∀ a ∈ l, ∃ i, d o i = .ok a := by
  have each (items : List Input) (l : List α) (h : Decoder.each d o items = .ok l) :
      ∀ a ∈ l, ∃ i, d o i = .ok a := by
    induction items generalizing l with
    | nil =>
      cases h
      simp
    | cons i items ih =>
      unfold Decoder.each at h
      split at h
      · cases h
      · rename_i a first
        cases rest : Decoder.each d o items with
        | error e =>
          rw [rest] at h
          cases h
        | ok l' =>
          rw [rest] at h
          cases h
          exact List.forall_mem_cons.mpr ⟨⟨i, first⟩, ih l' rest⟩
  unfold Decoder.list at h
  split at h
  · split at h
    · cases h
    · rename_i read
      split at h
      · cases h
      · cases h
        exact each _ _ read
  · cases h

end Json

end DeviceOnboard
