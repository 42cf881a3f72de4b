import DeviceOnboard.Proofs.DecodedMembers

/-!
# What a merge patch leaves

A merge patch is told by what becomes of each member: it is kept if the patch does not name it, it
is removed if the patch has a `null` for it, and otherwise the value of the patch is merged into
it. Members that ascend still do.
-/
namespace DeviceOnboard

variable {α : Type}

theorem findValue?_of_not_mem {key : String} {entries : List (String × α)}
    (absent : key ∉ entries.map (·.1)) : findValue? key entries = none := by
  have other : ∀ e ∈ entries, e.1 ≠ key := fun e member same =>
    absent (List.mem_map.mpr ⟨e, member, same⟩)
  simpa [findValue?] using other

theorem findValue?_setEntry (key other : String) (v : α) (entries : List (String × α)) :
    findValue? other (setEntry key v entries) =
      if key = other then some v else findValue? other entries := by
  by_cases same : key = other
  · rw [if_pos same, same, findValue?_setEntry_self]
  · rw [if_neg same, findValue?_setEntry_of_ne (Ne.symm same)]

theorem findValue?_eraseEntry (key other : String) (entries : List (String × α)) :
    findValue? other (eraseEntry key entries) =
      if key = other then none else findValue? other entries := by
  induction entries with
  | nil => simp [eraseEntry, findValue?_nil]
  | cons e rest ih =>
    obtain ⟨k, v⟩ := e
    have erased : eraseEntry key ((k, v) :: rest) =
        if k = key then eraseEntry key rest else (k, v) :: eraseEntry key rest := by
      by_cases same : k = key <;> simp [eraseEntry, same]
    rw [erased, findValue?_cons]
    by_cases same : k = key
    · subst same
      rw [if_pos rfl, ih]
      by_cases own : k = other <;> simp [own]
    · rw [if_neg same, findValue?_cons, ih]
      by_cases own : k = other
      · subst own
        simp [Ne.symm same]
      · simp [own]

theorem ascending_eraseEntry (key : String) {entries : List (String × α)}
    (ascending : Ascending entries) : Ascending (eraseEntry key entries) :=
  List.Pairwise.filter _ ascending

namespace Json

/-- What a merge patch makes of a member that is there or not. -/
def mergedMember (before : Option Json) : Option Json → Option Json
  | none => before
  | some .null => none
  | some patch => some (merge (before.getD .null) patch)

theorem mergeMembers_cons {k : String} {p : Json} (given : p ≠ .null) (target ps : Members) :
    mergeMembers target ((k, p) :: ps) =
      mergeMembers (setEntry k (merge ((findValue? k target).getD .null) p) target) ps := by
  rw [mergeMembers]
  exact given

theorem mergedMember_some {p : Json} (given : p ≠ .null) (before : Option Json) :
    mergedMember before (some p) = some (merge (before.getD .null) p) := by
  rw [mergedMember]
  exact given

theorem findValue?_mergeMembers {ps : Members} (distinct : (ps.map (·.1)).Nodup) (target : Members)
    (key : String) :
    findValue? key (mergeMembers target ps) =
      mergedMember (findValue? key target) (findValue? key ps) := by
  induction ps generalizing target with
  | nil => rw [mergeMembers, findValue?_nil, mergedMember]
  | cons m ps ih =>
    obtain ⟨k, p⟩ := m
    rw [List.map_cons, List.nodup_cons] at distinct
    -- What the patch says of a member is said once, so the rest of it keeps what the first said.
    have rest (own : k = key) (before : Option Json) :
        mergedMember before (findValue? key ps) = before := by
      rw [← own, findValue?_of_not_mem distinct.1, mergedMember]
    rw [findValue?_cons]
    by_cases removed : p = .null
    · subst removed
      rw [mergeMembers, ih distinct.2, findValue?_eraseEntry]
      by_cases own : k = key
      · rw [if_pos own, if_pos own, rest own, mergedMember]
      · rw [if_neg own, if_neg own]
    · rw [mergeMembers_cons removed, ih distinct.2, findValue?_setEntry]
      by_cases own : k = key
      · rw [if_pos own, if_pos own, rest own, mergedMember_some removed, own]
      · rw [if_neg own, if_neg own]

/-- What a merge patch leaves under a key. -/
theorem get?_merge (target : Json) {ps : Members} (distinct : (ps.map (·.1)).Nodup)
    (key : String) :
    (merge target (.obj ps)).get? key = mergedMember (target.get? key) (findValue? key ps) := by
  rw [merge]
  exact findValue?_mergeMembers distinct target.members key

theorem ascending_mergeMembers (ps : Members) {target : Members} (ascending : Ascending target) :
    Ascending (mergeMembers target ps) := by
  induction ps generalizing target with
  | nil => rwa [mergeMembers]
  | cons m ps ih =>
    obtain ⟨k, p⟩ := m
    by_cases removed : p = .null
    · subst removed
      rw [mergeMembers]
      exact ih (ascending_eraseEntry k ascending)
    · rw [mergeMembers_cons removed]
      exact ih (ascending_setEntry k _ ascending)

/-- An object stays one under a patch of members. -/
theorem exists_merge_eq (target : Dictionary Json) (ps : Members) :
    ∃ merged : Dictionary Json, merge (.obj target.entries) (.obj ps) = .obj merged.entries :=
  ⟨⟨_, ascending_mergeMembers ps target.ascending⟩, by rw [merge, members]⟩

end Json

end DeviceOnboard
