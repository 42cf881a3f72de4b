import DeviceOnboard.Proofs.MergedObjects
import DeviceOnboard.Proofs.TimeText
import DeviceOnboard.Proofs.WrittenForms
import DeviceOnboard.Server.Status

/-!
# A status survives being stored

A status is stored by merging its text into what is held for the server, and is read back from
there. Nothing is left of the pods and the conditions that were held before, and nothing is lost
but the fractions of seconds.
-/
namespace DeviceOnboard.Server

open DeviceOnboard.Json DeviceOnboard.Json.Record DeviceOnboard.Kubernetes

/-! ## Conditions -/

/-- The condition that is left of a condition when it is stored. -/
def storedCondition (c : Condition) : Condition :=
  { c with lastTransitionTime := c.lastTransitionTime.stored }

theorem carries_time {t : Time} (legible : t.Legible) :
    Carries .time .scalar (.str t.text) t.stored where
  written := .text t.text
  back := by
    unfold Json.decode Decoder.time
    simp only [Input.ofJson, Time.ofText_text legible]

def conditionForm : Form :=
  .object [("lastTransitionTime", .always, .scalar), ("message", .always, .scalar),
    ("observedGeneration", .set, .scalar), ("reason", .always, .scalar),
    ("status", .always, .scalar), ("type", .always, .scalar)]

theorem nodup_conditionMembers (c : Condition) : (c.toJson.members.map (·.1)).Nodup := by
  cases h : c.observedGeneration <;>
    simp [Condition.toJson, Json.record, Json.members, Members.join, Members.one, Members.opt, h]

/-- A condition is read back from what is written of it, but for the fraction of its time. -/
theorem carries_condition {c : Condition} (legible : c.lastTransitionTime.Legible) :
    Carries Condition.decode conditionForm c.toJson (storedCondition c) := by
  have text {ms : Members} {key s : String} (distinct : (ms.map (·.1)).Nodup)
      (found : findValue? key ms = some (.str s)) : Reads (orEmpty key .string "") ms s :=
    reads_orEmpty distinct found rfl nofun
  refine carries_kubernetes "Condition" ?_ (by decide) fun distinct _ => ?_
  · exact written_one (.text _) <| written_one (.text c.message) <|
      written_opt (fun n _ => .number _) <| written_one (.text c.reason) <|
      written_one (.text c.status) <| written_one (.text c.type) written_nil
  · have generation : Reads (optional "observedGeneration" (Decoder.int64.map Int64.ofInt)) _
        c.observedGeneration := reads_opt distinct (by simp) fun n _ => carries_int64 n
    have time : Reads (required "lastTransitionTime" .time) _ c.lastTransitionTime.stored :=
      reads_required distinct (by simp) (carries_time legible).back
    exact reads_seq (reads_seq (reads_seq (reads_seq (reads_seq
      (reads_map (text (s := c.type) distinct (by simp)))
      (text (s := c.status) distinct (by simp))) (text (s := c.reason) distinct (by simp)))
      (text (s := c.message) distinct (by simp))) generation) time

/-! ## Statuses -/

/-- The status that is left of a status when it is stored. -/
def storedStatus (s : Status) : Status := ⟨s.pods, s.conditions.map storedCondition⟩

def Status.form : Form :=
  .object [("conditions", .filled, .list conditionForm), ("pods", .always, .list .scalar)]

/-- A status is read back from what is written of it, but for fractions of seconds. -/
theorem carries_status {s : Status}
    (legible : ∀ c ∈ s.conditions, c.lastTransitionTime.Legible) :
    Carries Status.decode Status.form s.toJson (storedStatus s) := by
  have pods := carries_strings s.pods
  have conditions : Carries (Decoder.list Condition.decode) (.list conditionForm)
      (.arr (s.conditions.map Condition.toJson)) (s.conditions.map storedCondition) :=
    carries_list fun c member => carries_condition (legible c member)
  refine carries_record "ServerStatus" ?_ (by decide) fun distinct _ => ?_
  · exact written_many (fun c member => (carries_condition (legible c member)).written) <|
      written_one pods.written written_nil
  · have first : Reads (defaulted "pods" (.list .string) []) _ s.pods :=
      reads_defaulted distinct (by simp) pods.back
    have second : Reads (defaulted "conditions" (.list Condition.decode) []) _
        (s.conditions.map storedCondition) := reads_many distinct (by simp) (by simp) conditions
    exact reads_seq (reads_map first) second

theorem legible_of_time {o : Origin} {i : Input} {t : Time} (h : Decoder.time o i = .ok t) :
    t.Legible := by
  unfold Decoder.time at h
  split at h
  · split at h
    · rename_i read
      cases h
      exact Time.legible_of_ofText read
    · cases h
  · cases h

theorem legible_of_condition {o : Origin} {i : Input} {c : Condition}
    (h : Condition.decode o i = .ok c) : c.lastTransitionTime.Legible := by
  obtain ⟨find, built⟩ := decodeKubernetes_ok h
  obtain ⟨_, t, five, time, rfl⟩ := build_seq_ok built
  obtain ⟨_, _, four, _, rfl⟩ := build_seq_ok five
  obtain ⟨_, _, three, _, rfl⟩ := build_seq_ok four
  obtain ⟨_, _, two, _, rfl⟩ := build_seq_ok three
  obtain ⟨_, _, one, _, rfl⟩ := build_seq_ok two
  obtain ⟨_, _, rfl⟩ := build_map_ok one
  show t.Legible
  simp only [required, field] at time
  split at time
  · exact legible_of_time time
  · cases time

/-- The times of a status that was read can be written. -/
theorem legible_of_status {o : Origin} {i : Input} {s : Status} (h : Status.decode o i = .ok s) :
    ∀ c ∈ s.conditions, c.lastTransitionTime.Legible := by
  obtain ⟨find, built⟩ := decode_ok h
  obtain ⟨_, conditions, first, list, rfl⟩ := build_seq_ok built
  obtain ⟨_, _, rfl⟩ := build_map_ok first
  intro c member
  simp only [defaulted, field] at list
  split at list
  · obtain ⟨_, read⟩ := list_ok list c member
    exact legible_of_condition read
  · cases list
    cases member

/-! ## Merging a status -/

theorem toJson_of_conditions {s : Status} (nonempty : s.conditions ≠ []) :
    s.toJson = .obj [("conditions", .arr (s.conditions.map Condition.toJson)),
      ("pods", Json.strings s.pods)] := by
  have some : s.conditions.isEmpty = false := by simpa using nonempty
  simp [Status.toJson, Json.record, Members.join, Members.many, Members.one, some]

/-- A status that is merged into what is held replaces its pods and its conditions, and leaves all
its other members. -/
theorem get?_merge_status (held : Json) {s : Status} (nonempty : s.conditions ≠ []) (key : String) :
    (Json.merge held s.toJson).get? key =
      if key = "conditions" then some (.arr (s.conditions.map Condition.toJson))
      else if key = "pods" then some (Json.strings s.pods)
      else held.get? key := by
  rw [toJson_of_conditions nonempty, get?_merge held (by simp)]
  simp only [findValue?_cons, findValue?_nil, eq_comm (b := key)]
  split
  · rfl
  · split <;> rfl

/-- A status that is merged into anything is an object, in which members that ascend still do. -/
theorem exists_merge_status (held : Json) (s : Status) :
    ∃ ms, Json.merge held s.toJson = .obj ms ∧ (Ascending held.members → Ascending ms) :=
  ⟨_, by rw [Status.toJson, Json.record, Json.merge], ascending_mergeMembers _⟩

/-- A status that was merged into anything that is held is read back, but for fractions of
seconds. -/
theorem decode_merged_status {held : Json} {s : Status} (ascending : Ascending held.members)
    (nonempty : s.conditions ≠ [])
    (legible : ∀ c ∈ s.conditions, c.lastTransitionTime.Legible) :
    Json.decode Status.decode (Json.merge held s.toJson) = .ok (storedStatus s) := by
  have found := get?_merge_status held nonempty
  obtain ⟨ms, merged, ordered⟩ := exists_merge_status held s
  rw [merged] at found ⊢
  have distinct := nodup_of_ascending (ordered ascending)
  have pods : findValue? "pods" ms = some (Json.strings s.pods) := found "pods"
  have conditions : findValue? "conditions" ms =
      some (.arr (s.conditions.map Condition.toJson)) := found "conditions"
  have reads : Reads Status.record ms (storedStatus s) :=
    reads_seq (reads_map (reads_defaulted distinct pods (decode_strings s.pods)))
      (reads_defaulted distinct conditions
        (decode_list fun c member => (carries_condition (legible c member)).back))
  exact reads.decode "ServerStatus" distinct

end DeviceOnboard.Server
