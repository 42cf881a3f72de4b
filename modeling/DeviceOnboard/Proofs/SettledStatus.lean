import DeviceOnboard.Proofs.StoredStatus

/-!
# The status settles

A cycle that ends as the one before finds both of its conditions in the status and leaves the
status as it is, whatever the clock says. Only the first condition of a type counts, so conditions
of other types and repeated ones are left alone.
-/
namespace DeviceOnboard.Server

open DeviceOnboard.Kubernetes

/-- The first condition of the type of a condition is that condition, at some time. -/
def Settled (c : Condition) (l : List Condition) : Prop :=
  ∃ t, l.find? (fun d => d.type == c.type) = some { c with lastTransitionTime := t }

theorem settled_cons_of_ne {c d : Condition} {l : List Condition} (different : d.type ≠ c.type) :
    Settled c (d :: l) ↔ Settled c l := by
  unfold Settled
  rw [List.find?_cons_of_neg (by simpa using different)]

/-- A condition that was set is there. -/
theorem settled_setCondition (c : Condition) (l : List Condition) :
    Settled c (Status.setCondition c l) := by
  induction l with
  | nil => exact ⟨c.lastTransitionTime, by simp [Status.setCondition]⟩
  | cons d l ih =>
    unfold Status.setCondition
    split
    · split
      · exact ⟨d.lastTransitionTime, by simp⟩
      · exact ⟨c.lastTransitionTime, by simp⟩
    · rename_i different
      exact (settled_cons_of_ne different).mpr ih

/-- A condition that is there is not set again. -/
theorem setCondition_of_settled {c : Condition} {l : List Condition} (settled : Settled c l) :
    Status.setCondition c l = l := by
  induction l with
  | nil =>
    obtain ⟨t, h⟩ := settled
    cases h
  | cons d l ih =>
    unfold Status.setCondition
    split
    · rename_i same
      obtain ⟨t, h⟩ := settled
      rw [List.find?_cons_of_pos (by simpa using same)] at h
      cases h
      simp
    · rename_i different
      rw [ih ((settled_cons_of_ne different).mp settled)]

/-- Setting a condition of another type leaves a condition where it is. -/
theorem settled_setCondition_of_ne {c e : Condition} {l : List Condition}
    (different : e.type ≠ c.type) (settled : Settled c l) :
    Settled c (Status.setCondition e l) := by
  induction l with
  | nil =>
    obtain ⟨t, h⟩ := settled
    cases h
  | cons d l ih =>
    unfold Status.setCondition
    split
    · rename_i same
      have other : d.type ≠ c.type := same ▸ different
      have rest := (settled_cons_of_ne other).mp settled
      split
      · exact (settled_cons_of_ne (by exact different)).mpr rest
      · exact (settled_cons_of_ne different).mpr rest
    · by_cases same : d.type = c.type
      · obtain ⟨t, h⟩ := settled
        rw [List.find?_cons_of_pos (by simpa using same)] at h
        exact ⟨t, by rw [List.find?_cons_of_pos (by simpa using same), h]⟩
      · exact (settled_cons_of_ne same).mpr (ih ((settled_cons_of_ne same).mp settled))

/-- What is stored of the conditions is settled as they are. -/
theorem settled_stored {c : Condition} {l : List Condition} (settled : Settled c l) :
    Settled c (l.map storedCondition) := by
  obtain ⟨t, h⟩ := settled
  refine ⟨t.stored, ?_⟩
  rw [List.find?_map]
  show (l.find? fun d => d.type == c.type).map storedCondition = _
  rw [h]
  rfl

/-- Whether an outcome is there does not depend on the clock. -/
theorem Settled.at_other_time {type : String} {holds : Bool} {generation : Option Int64}
    {error : Option String} {now : Time} {l : List Condition}
    (settled : Settled (Status.outcome type holds generation error now) l) (now' : Time) :
    Settled (Status.outcome type holds generation error now') l :=
  settled

/-! ## Statuses -/

/-- Both conditions of an outcome are in a status. -/
structure Reports (s : Status) (generation : Option Int64) (error : Option String) : Prop where
  success : ∀ now,
    Settled (Status.outcome Status.successType error.isNone generation error now) s.conditions
  failure : ∀ now,
    Settled (Status.outcome Status.errorType error.isSome generation error now) s.conditions

variable {s : Status} {generation : Option Int64} {error : Option String}

/-- The status after a cycle reports its outcome. -/
theorem reports_next (current : Option Status) (pods : List String) (now : Time) :
    Reports (.next current pods generation error now) generation error where
  success := by
    have settled := settled_setCondition
      (Status.outcome Status.successType error.isNone generation error now)
      ((current.map Status.conditions).getD [])
    have different : Status.errorType ≠ Status.successType := by decide
    exact (settled_setCondition_of_ne different settled).at_other_time
  failure := by
    have settled := settled_setCondition
      (Status.outcome Status.errorType error.isSome generation error now)
      (Status.setCondition (Status.outcome Status.successType error.isNone generation error now)
        ((current.map Status.conditions).getD []))
    exact settled.at_other_time

theorem Reports.stored (h : Reports s generation error) :
    Reports (storedStatus s) generation error :=
  ⟨fun now => settled_stored (h.success now), fun now => settled_stored (h.failure now)⟩

/-- A status that reports the outcome of a cycle is the status after it. -/
theorem next_of_reports (h : Reports s generation error) (now : Time) :
    Status.next (some s) s.pods generation error now = s := by
  unfold Status.next
  rw [Option.map_some, Option.getD_some, setCondition_of_settled (h.success now),
    setCondition_of_settled (h.failure now)]

theorem Reports.conditions_ne_nil (h : Reports s generation error) : s.conditions ≠ [] := by
  obtain ⟨t, found⟩ := h.success default
  intro empty
  rw [empty] at found
  cases found

/-! ## Times -/

/-- A condition that is set brings its own time or keeps one that is there. -/
theorem times_setCondition {P : Time → Prop} {c : Condition} {l : List Condition}
    (own : P c.lastTransitionTime) (others : ∀ d ∈ l, P d.lastTransitionTime) :
    ∀ d ∈ Status.setCondition c l, P d.lastTransitionTime := by
  induction l with
  | nil => simpa [Status.setCondition] using own
  | cons d l ih =>
    rw [List.forall_mem_cons] at others
    unfold Status.setCondition
    split
    · rw [List.forall_mem_cons]
      refine ⟨?_, others.2⟩
      split
      · exact others.1
      · exact own
    · exact List.forall_mem_cons.mpr ⟨others.1, ih others.2⟩

/-- The times of a status are times of the status before, or the time of the cycle. -/
theorem times_next {P : Time → Prop} {current : Option Status} {pods : List String} {now : Time}
    (clock : P now)
    (before : ∀ c ∈ (current.map Status.conditions).getD [], P c.lastTransitionTime) :
    ∀ c ∈ (Status.next current pods generation error now).conditions, P c.lastTransitionTime :=
  times_setCondition clock (times_setCondition clock before)

end DeviceOnboard.Server
