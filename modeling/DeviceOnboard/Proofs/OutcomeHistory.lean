import DeviceOnboard.Server.Status
import Mathlib.Data.List.DropRight
import Mathlib.Data.List.Nodup

/-!
# What the conditions tell of the past

A status is computed from the one before and from the cycle that has just ended, so the conditions
are all that is left of earlier cycles. For every history they tell how its last cycle ended, and
since when cycles have been ending that way. All other conditions are as they were at the start.
-/
namespace DeviceOnboard.Server

open DeviceOnboard.Kubernetes

/-! ## Setting one condition -/

section

variable {c d : Condition} {l : List Condition} {type : String}

def types (l : List Condition) : List String := l.map (·.type)

theorem types_cons (c : Condition) (l : List Condition) : types (c :: l) = c.type :: types l := rfl

/-- Whether a condition is of a type. -/
def ofType (type : String) (c : Condition) : Bool := c.type == type

@[simp]
theorem ofType_iff : ofType type c = true ↔ c.type = type := by simp [ofType]

/-- The time of a condition that is set with a status where another one, or none, is found. -/
def carriedTime (status : String) (now : Time) : Option Condition → Time
  | some d => if d.status = status then d.lastTransitionTime else now
  | none => now

/-- A condition in the place of the one that is found. -/
def inPlaceOf (found : Option Condition) (c : Condition) : Condition :=
  { c with lastTransitionTime := carriedTime c.status c.lastTransitionTime found }

theorem setCondition_cons_of_eq (l : List Condition) (same : d.type = c.type) :
    Status.setCondition c (d :: l) = inPlaceOf (some d) c :: l := by
  unfold Status.setCondition inPlaceOf carriedTime
  rw [if_pos same]
  by_cases unchanged : d.status = c.status <;> simp [unchanged]

theorem setCondition_cons_of_ne (l : List Condition) (other : d.type ≠ c.type) :
    Status.setCondition c (d :: l) = d :: Status.setCondition c l :=
  if_neg other

theorem types_setCondition (c : Condition) (l : List Condition) :
    types (Status.setCondition c l) =
      if c.type ∈ types l then types l else types l ++ [c.type] := by
  induction l with
  | nil => rfl
  | cons d l ih =>
    by_cases same : d.type = c.type
    · simp [setCondition_cons_of_eq l same, types, inPlaceOf, same]
    · rw [setCondition_cons_of_ne l same]
      rw [types_cons, types_cons, ih]
      by_cases member : c.type ∈ types l <;> simp [member, Ne.symm same]

theorem types_prefix_setCondition (c : Condition) (l : List Condition) :
    types l <+: types (Status.setCondition c l) := by
  rw [types_setCondition]
  split
  · exact List.prefix_rfl
  · exact List.prefix_append _ _

theorem nodup_setCondition (c : Condition) (distinct : (types l).Nodup) :
    (types (Status.setCondition c l)).Nodup := by
  rw [types_setCondition]
  split
  · exact distinct
  · rename_i absent
    exact distinct.append (List.nodup_singleton _) (by simpa using absent)

/-- Conditions of other types stay in their places, and none comes in. -/
theorem getElem?_setCondition_of_ne (other : d.type ≠ c.type) (i : Nat) :
    (Status.setCondition c l)[i]? = some d ↔ l[i]? = some d := by
  have notSet : c ≠ d := fun h => other (h ▸ rfl)
  induction l generalizing i with
  | nil => cases i <;> simp [Status.setCondition, notSet]
  | cons e l ih =>
    by_cases same : e.type = c.type
    · rw [setCondition_cons_of_eq l same]
      have different : e ≠ d := fun h => other (h ▸ same)
      have replaced : inPlaceOf (some e) c ≠ d := by
        rintro rfl
        exact other rfl
      cases i with
      | zero => simp [replaced, different]
      | succ i => rfl
    · rw [setCondition_cons_of_ne l same]
      cases i with
      | zero => rfl
      | succ i => exact ih i

theorem find?_setCondition_self (c : Condition) (l : List Condition) :
    (Status.setCondition c l).find? (ofType c.type) =
      some (inPlaceOf (l.find? (ofType c.type)) c) := by
  induction l with
  | nil => simp [Status.setCondition, inPlaceOf, carriedTime]
  | cons d l ih =>
    by_cases same : d.type = c.type
    · rw [setCondition_cons_of_eq l same, List.find?_cons_of_pos (by simp [inPlaceOf]),
        List.find?_cons_of_pos (by simpa using same)]
    · have skipped : ¬ofType c.type d := by simpa using same
      rw [setCondition_cons_of_ne l same, List.find?_cons_of_neg skipped,
        List.find?_cons_of_neg skipped, ih]

theorem find?_setCondition_of_ne (other : c.type ≠ type) :
    (Status.setCondition c l).find? (ofType type) = l.find? (ofType type) := by
  induction l with
  | nil => simp [Status.setCondition, other]
  | cons d l ih =>
    by_cases same : d.type = c.type
    · rw [setCondition_cons_of_eq l same,
        List.find?_cons_of_neg (by simpa [inPlaceOf] using other),
        List.find?_cons_of_neg (by simpa [same] using other)]
    · rw [setCondition_cons_of_ne l same, List.find?_cons, List.find?_cons, ih]

theorem find?_ofType_eq_none (absent : type ∉ types l) : l.find? (ofType type) = none := by
  refine List.find?_eq_none.mpr fun d member same => absent ?_
  exact List.mem_map.mpr ⟨d, member, ofType_iff.mp same⟩

/-- Among conditions of distinct types there is at most one of a type. -/
theorem filter_ofType (distinct : (types l).Nodup) (type : String) :
    l.filter (ofType type) = (l.find? (ofType type)).toList := by
  induction l with
  | nil => rfl
  | cons d l ih =>
    rw [types_cons, List.nodup_cons] at distinct
    obtain ⟨absent, rest⟩ := distinct
    have others := ih rest
    by_cases found : ofType type d
    · rw [ofType_iff.mp found] at absent
      rw [find?_ofType_eq_none absent] at others
      rw [List.filter_cons_of_pos found, List.find?_cons_of_pos found, others]
      rfl
    · rw [List.filter_cons_of_neg found, List.find?_cons_of_neg found, others]

/-- Among conditions of distinct types, one of a type and a status is the only one of its type. -/
theorem find?_type_status (distinct : (types l).Nodup) (type status : String) :
    (l.find? fun c => c.type == type && c.status == status) =
      (l.find? (ofType type)).filter (·.status == status) := by
  induction l with
  | nil => rfl
  | cons d l ih =>
    rw [types_cons, List.nodup_cons] at distinct
    obtain ⟨absent, rest⟩ := distinct
    have others := ih rest
    by_cases found : d.type = type
    · rw [found] at absent
      rw [find?_ofType_eq_none absent] at others
      rw [List.find?_cons_of_pos (ofType_iff.mpr found), List.find?_cons, others]
      cases same : d.status == status <;> simp [Option.filter, found, same]
    · have skipped : ¬ofType type d := by simpa using found
      rw [List.find?_cons_of_neg skipped, List.find?_cons_of_neg (by simp [found]), others]

end

/-! ## Histories -/

/-- What a cycle brings to the status: the pods and the generation it saw, the error it ended with,
if any, and the time of its end. -/
structure Cycle where
  pods : List String
  generation : Option Int64
  error : Option String
  time : Time
  deriving DecidableEq, Repr

def Cycle.failed (c : Cycle) : Bool := c.error.isSome

/-- The status after one more cycle. -/
def Cycle.update (c : Cycle) (s : Option Status) : Status :=
  .next s c.pods c.generation c.error c.time

/-- The status after all cycles of a history. -/
def statusOver (initial : Option Status) (history : List Cycle) : Option Status :=
  history.foldl (fun s c => some (c.update s)) initial

/-- The conditions that a status holds, if there is one. -/
def conditionsOf (s : Option Status) : List Condition := (s.map Status.conditions).getD []

/-- The longest last part of a history in which all cycles end as the last one does. -/
def lastSpell (earlier : List Cycle) (last : Cycle) : List Cycle :=
  (earlier ++ [last]).rtakeWhile fun c => c.failed == last.failed

/-- Since when a condition has had its status: since the first cycle of the last spell, or since
the time that it had before the history, if it had the status then and has kept it ever since. -/
def transitionTime (before : List Condition) (type status : String) (earlier : List Cycle)
    (last : Cycle) : Time :=
  let begun := ((lastSpell earlier last).headD last).time
  match before.find? fun c => c.type == type && c.status == status with
  | some c => if lastSpell earlier last = earlier ++ [last] then c.lastTransitionTime else begun
  | none => begun

/-! ### Spells -/

section

variable {earlier : List Cycle} {c last : Cycle}

theorem lastSpell_nil (last : Cycle) : lastSpell [] last = [last] := by
  simp [lastSpell, List.rtakeWhile]

theorem lastSpell_concat_of_eq (same : c.failed = last.failed) :
    lastSpell (earlier ++ [c]) last = lastSpell earlier c ++ [last] := by
  unfold lastSpell
  rw [List.rtakeWhile_concat_pos _ _ _ (by simp), same]

theorem lastSpell_concat_of_ne (different : c.failed ≠ last.failed) :
    lastSpell (earlier ++ [c]) last = [last] := by
  unfold lastSpell
  rw [List.rtakeWhile_concat_pos _ _ _ (by simp),
    List.rtakeWhile_concat_neg _ _ _ (by simpa using different)]
  rfl

theorem lastSpell_ne_nil (earlier : List Cycle) (last : Cycle) : lastSpell earlier last ≠ [] := by
  unfold lastSpell
  rw [List.rtakeWhile_concat_pos _ _ _ (by simp)]
  simp

variable {before : List Condition} {type status : String}

theorem transitionTime_concat_of_eq (same : c.failed = last.failed) :
    transitionTime before type status (earlier ++ [c]) last =
      transitionTime before type status earlier c := by
  obtain ⟨first, rest, spell⟩ := List.exists_cons_of_ne_nil (lastSpell_ne_nil earlier c)
  have whole : lastSpell (earlier ++ [c]) last = earlier ++ [c] ++ [last] ↔
      lastSpell earlier c = earlier ++ [c] := by
    rw [lastSpell_concat_of_eq same, List.append_cancel_right_eq]
  unfold transitionTime
  simp only [whole]
  rw [lastSpell_concat_of_eq same, spell]
  rfl

theorem transitionTime_concat_of_ne (different : c.failed ≠ last.failed) :
    transitionTime before type status (earlier ++ [c]) last = last.time := by
  unfold transitionTime
  rw [lastSpell_concat_of_ne different]
  have part : ¬[last] = earlier ++ [c] ++ [last] := by
    intro h
    simpa using congrArg List.length h
  simp only [part, if_false]
  split <;> rfl

/-- A first cycle keeps the time of a condition that has its status already. -/
theorem carriedTime_initial (distinct : (types before).Nodup) :
    carriedTime status last.time (before.find? (ofType type)) =
      transitionTime before type status [] last := by
  unfold transitionTime
  rw [lastSpell_nil, find?_type_status distinct]
  cases before.find? (ofType type) with
  | none => rfl
  | some d => by_cases same : d.status = status <;> simp [Option.filter, carriedTime, same]

end

/-! ### The conditions after a history -/

/-- What the two conditions of a status are about: that the last cycle succeeded, and that it
failed. -/
inductive Aspect where
  | success | failure
  deriving DecidableEq, Repr

namespace Aspect

def type : Aspect → String
  | success => Status.successType
  | failure => Status.errorType

/-- Whether the condition holds after a cycle. -/
def holds : Aspect → Cycle → Bool
  | success, c => c.error.isNone
  | failure, c => c.error.isSome

/-- The status of the condition after a cycle. -/
def status (a : Aspect) (c : Cycle) : String := Status.truth (a.holds c)

theorem status_eq_iff (a : Aspect) (c d : Cycle) :
    a.status c = a.status d ↔ c.failed = d.failed := by
  cases a <;> cases hc : c.error <;> cases hd : d.error <;>
    simp [status, holds, Cycle.failed, Status.truth, hc, hd]

/-- The condition that a cycle leaves, with a time. -/
def outcome (a : Aspect) (c : Cycle) (t : Time) : Condition :=
  Status.outcome a.type (a.holds c) c.generation c.error t

/-- The condition after a history: the outcome of the last cycle, at the time of the last
transition. -/
def recorded (a : Aspect) (before : List Condition) (earlier : List Cycle) (last : Cycle) :
    Condition :=
  a.outcome last (transitionTime before a.type (a.status last) earlier last)

end Aspect

section

variable {before : List Condition} {earlier : List Cycle} {c last : Cycle} {s : Option Status}

/-- A condition keeps its time just as long as cycles end alike. -/
theorem carriedTime_recorded (a : Aspect) :
    carriedTime (a.status last) last.time (some (a.recorded before earlier c)) =
      transitionTime before a.type (a.status last) (earlier ++ [c]) last := by
  show (if a.status c = a.status last then transitionTime before a.type (a.status c) earlier c
    else last.time) = _
  by_cases same : c.failed = last.failed
  · have held : a.status c = a.status last := (a.status_eq_iff c last).mpr same
    rw [if_pos held, transitionTime_concat_of_eq same, held]
  · rw [if_neg (mt (a.status_eq_iff c last).mp same), transitionTime_concat_of_ne same]

/-- The conditions after one more cycle, from those that the status held before. -/
theorem find?_update (a : Aspect) (s : Option Status) :
    (last.update s).conditions.find? (ofType a.type) =
      some (a.outcome last
        (carriedTime (a.status last) last.time ((conditionsOf s).find? (ofType a.type)))) := by
  have apart : Aspect.success.type ≠ Aspect.failure.type := by decide
  have set := find?_setCondition_self (Aspect.success.outcome last last.time) (conditionsOf s)
  cases a with
  | success => exact (find?_setCondition_of_ne apart.symm).trans set
  | failure =>
    have other : (Status.setCondition (Aspect.success.outcome last last.time)
        (conditionsOf s)).find? (ofType Aspect.failure.type) =
        (conditionsOf s).find? (ofType Aspect.failure.type) := find?_setCondition_of_ne apart
    rw [← other]
    exact find?_setCondition_self (Aspect.failure.outcome last last.time) _

theorem nodup_update (distinct : (types (conditionsOf s)).Nodup) :
    (types (last.update s).conditions).Nodup :=
  nodup_setCondition _ (nodup_setCondition _ distinct)

theorem types_prefix_update (s : Option Status) :
    types (conditionsOf s) <+: types (last.update s).conditions :=
  (types_prefix_setCondition _ _).trans (types_prefix_setCondition _ _)

/-- A cycle leaves all conditions alone that do not tell of it. -/
theorem getElem?_update {d : Condition} (foreign : ∀ a : Aspect, d.type ≠ a.type) (i : Nat) :
    (last.update s).conditions[i]? = some d ↔ (conditionsOf s)[i]? = some d :=
  (getElem?_setCondition_of_ne (foreign .failure) i).trans
    (getElem?_setCondition_of_ne (foreign .success) i)

/-! ### Runs over a history -/

/-- What a status holds after the history `earlier ++ [last]` that began with the conditions
`before`. -/
structure Tells (before : List Condition) (earlier : List Cycle) (last : Cycle) (s : Status) :
    Prop where
  pods : s.pods = last.pods
  distinct : (types s.conditions).Nodup
  order : types before <+: types s.conditions
  foreign : ∀ d : Condition, (∀ a : Aspect, d.type ≠ a.type) →
    ∀ i : Nat, s.conditions[i]? = some d ↔ before[i]? = some d
  own : ∀ a : Aspect, s.conditions.find? (ofType a.type) = some (a.recorded before earlier last)

theorem tells_first {initial : Option Status} (distinct : (types (conditionsOf initial)).Nodup)
    (first : Cycle) : Tells (conditionsOf initial) [] first (first.update initial) where
  pods := rfl
  distinct := nodup_update distinct
  order := types_prefix_update initial
  foreign _ other i := getElem?_update other i
  own a := by
    rw [find?_update, carriedTime_initial distinct]
    rfl

theorem Tells.next {s : Status} (h : Tells before earlier c s) (last : Cycle) :
    Tells before (earlier ++ [c]) last (last.update (some s)) where
  pods := rfl
  distinct := nodup_update h.distinct
  order := h.order.trans (types_prefix_update (some s))
  foreign d other i := (getElem?_update other i).trans (h.foreign d other i)
  own a := by
    rw [find?_update, show conditionsOf (some s) = s.conditions from rfl, h.own,
      carriedTime_recorded]
    rfl

/-- A history that is not empty ends with a status, which tells of it. -/
theorem exists_tells {initial : Option Status} (distinct : (types (conditionsOf initial)).Nodup)
    (earlier : List Cycle) (last : Cycle) :
    ∃ s, statusOver initial (earlier ++ [last]) = some s ∧
      Tells (conditionsOf initial) earlier last s := by
  induction earlier using List.reverseRecOn generalizing last with
  | nil => exact ⟨_, rfl, tells_first distinct last⟩
  | append_singleton earlier c ih =>
    obtain ⟨s, folded, tells⟩ := ih c
    refine ⟨last.update (some s), ?_, tells.next last⟩
    unfold statusOver at folded ⊢
    rw [List.foldl_append, folded]
    rfl

theorem Tells.filter {s : Status} (h : Tells before earlier last s) (a : Aspect) :
    s.conditions.filter (ofType a.type) = [a.recorded before earlier last] := by
  rw [filter_ofType h.distinct, h.own]
  rfl

end

/-- For every status to begin with whose conditions are of distinct types, and every history of
cycles that is not empty, there is a status after it, with the pods of the last cycle, and

- its conditions are of distinct types again, the types that were there first and in their order;
- conditions that do not tell of cycles are those that were there, in their places;
- there is just one condition of either type that tells of cycles; both tell the outcome of the last
  cycle, its generation and its error, and the time of each is that of its last transition. -/
theorem conditions_tell_history (initial : Option Status)
    (distinct : (types (conditionsOf initial)).Nodup) (earlier : List Cycle) (last : Cycle) :
    ∃ s, statusOver initial (earlier ++ [last]) = some s ∧ s.pods = last.pods ∧
      (types s.conditions).Nodup ∧ types (conditionsOf initial) <+: types s.conditions ∧
      (∀ d : Condition, d.type ≠ "ReconcileSuccess" → d.type ≠ "ReconcileError" →
        ∀ i : Nat, s.conditions[i]? = some d ↔ (conditionsOf initial)[i]? = some d) ∧
      s.conditions.filter (ofType "ReconcileSuccess") =
        [{ type := "ReconcileSuccess"
           status := if last.error.isNone then "True" else "False"
           reason := if last.error.isNone then "Succeeded" else "Failed"
           message := last.error.getD ""
           observedGeneration := last.generation
           lastTransitionTime := transitionTime (conditionsOf initial) "ReconcileSuccess"
             (if last.error.isNone then "True" else "False") earlier last }] ∧
      s.conditions.filter (ofType "ReconcileError") =
        [{ type := "ReconcileError"
           status := if last.error.isNone then "False" else "True"
           reason := if last.error.isNone then "Succeeded" else "Failed"
           message := last.error.getD ""
           observedGeneration := last.generation
           lastTransitionTime := transitionTime (conditionsOf initial) "ReconcileError"
             (if last.error.isNone then "False" else "True") earlier last }] := by
  obtain ⟨s, folded, tells⟩ := exists_tells distinct earlier last
  have foreign (d : Condition) (success : d.type ≠ "ReconcileSuccess")
      (failure : d.type ≠ "ReconcileError") (a : Aspect) : d.type ≠ a.type := by
    cases a
    · exact success
    · exact failure
  refine ⟨s, folded, tells.pods, tells.distinct, tells.order,
    fun d success failure => tells.foreign d (foreign d success failure), ?_, ?_⟩
  · have own := tells.filter .success
    cases h : last.error <;>
      simpa [Aspect.recorded, Aspect.outcome, Aspect.status, Aspect.holds, Aspect.type,
        Status.outcome, Status.truth, Status.successType, h] using own
  · have own := tells.filter .failure
    cases h : last.error <;>
      simpa [Aspect.recorded, Aspect.outcome, Aspect.status, Aspect.holds, Aspect.type,
        Status.outcome, Status.truth, Status.errorType, h] using own

/-- A status that another hand has written: a condition of its own, and one that tells of a failure
but has no counterpart. -/
def halfWritten : Status where
  pods := ["server-0"]
  conditions :=
    [⟨"ReconcileError", "True", "Other", "", none, ⟨1, 0⟩⟩,
      ⟨"Available", "True", "MinimumReplicas", "", some 1, ⟨2, 0⟩⟩]

/-- A server that goes on failing: the condition that told of a failure keeps its time, and the one
that is new has the time of the first cycle. -/
theorem conditions_tell_history_halfWritten :
    (types halfWritten.conditions).Nodup ∧
    ∃ s, statusOver (some halfWritten)
        ([⟨[], none, some "a", ⟨5, 0⟩⟩] ++ [⟨[], none, some "b", ⟨9, 0⟩⟩])
        = some s ∧
      s.conditions.filter (ofType "ReconcileSuccess") =
        [⟨"ReconcileSuccess", "False", "Failed", "b", none, ⟨5, 0⟩⟩] ∧
      s.conditions.filter (ofType "ReconcileError") =
        [⟨"ReconcileError", "True", "Failed", "b", none, ⟨1, 0⟩⟩] := by
  have distinct : (types (conditionsOf (some halfWritten))).Nodup := by decide
  obtain ⟨s, folded, _, _, _, _, success, failure⟩ := conditions_tell_history (some halfWritten)
    distinct [⟨[], none, some "a", ⟨5, 0⟩⟩] ⟨[], none, some "b", ⟨9, 0⟩⟩
  exact ⟨distinct, s, folded, success, failure⟩

end DeviceOnboard.Server
