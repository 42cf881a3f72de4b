import DeviceOnboard.Api.Cluster
import DeviceOnboard.Proofs.SettledStatus

/-!
# What a status patch stores

A merge patch keeps what it does not name, and a status leaves out what is empty or not set. Still
the patch of a status that a cycle computes stores just this status: pods are always written, there
are always conditions, and a list of conditions is replaced as a whole.
-/
namespace DeviceOnboard.Server

open DeviceOnboard.Json DeviceOnboard.Kubernetes

/-- A status patch touches no other member, and merges the status into the one that is held. -/
theorem get?_merge_statusPatch (object : Json) (s : Status) (key : String) :
    (Json.merge object (Api.statusPatch s)).get? key =
      if key = "status" then some (Json.merge ((object.get? "status").getD .null) s.toJson)
      else object.get? key := by
  obtain ⟨ms, written⟩ : ∃ ms, s.toJson = .obj ms := ⟨_, rfl⟩
  have patch : Api.statusPatch s = .obj [("status", s.toJson)] := rfl
  rw [patch, get?_merge object (by simp), findValue?_cons, findValue?_nil, written]
  by_cases own : key = "status"
  · subst own
    rfl
  · rw [if_neg own, if_neg (Ne.symm own), mergedMember]

/-- Whatever an object holds in its status and elsewhere, the patch of a status that a cycle has
computed, from whatever status it has read, leaves the other members of the object as they are. The
status that is held then is read as the one that was computed, but for fractions of seconds: its
pods and conditions are written anew as a whole, and only members that no status has are left from
before. Objects are held as they are read, with their keys in order. The times are any that a clock
can show; those of the years 0 to 9999 are among them (`Time.Storable.legible`). -/
theorem patched_status_read_back {stored : Dictionary Json} {current : Option Status}
    {pods : List String} {generation : Option Int64} {error : Option String} {now : Time} {s : Status}
    (ascending : ∀ before ∈ stored.find? "status", Ascending before.members)
    (times : ∀ c ∈ (current.map Status.conditions).getD [], c.lastTransitionTime.Legible)
    (clock : now.Legible) (computed : s = Status.next current pods generation error now) :
    ∃ patched held : Dictionary Json,
      Json.merge (.obj stored.entries) (Api.statusPatch s) = .obj patched.entries ∧
      (∀ key, key ≠ "status" → patched.find? key = stored.find? key) ∧
      patched.find? "status" = some (.obj held.entries) ∧
      Json.decode Status.decode (.obj held.entries) = .ok (storedStatus s) ∧
      held.find? "pods" = some (Json.strings pods) ∧
      held.find? "conditions" = some (.arr (s.conditions.map Condition.toJson)) ∧
      ∀ key, key ≠ "pods" → key ≠ "conditions" →
        held.find? key = (stored.find? "status").bind (·.get? key) := by
  have nonempty : s.conditions ≠ [] := computed ▸ (reports_next current pods now).conditions_ne_nil
  have legible : ∀ c ∈ s.conditions, c.lastTransitionTime.Legible :=
    computed ▸ times_next clock times
  have own : s.pods = pods := by rw [computed]; rfl
  obtain ⟨before, hbefore⟩ : ∃ before, before = (stored.find? "status").getD .null := ⟨_, rfl⟩
  have ordered : Ascending before.members := by
    rw [hbefore]
    cases found : stored.find? "status" with
    | none => exact .nil
    | some j => exact ascending j found
  obtain ⟨ms, status, keeps⟩ := exists_merge_status before s
  obtain ⟨patched, merged⟩ : ∃ patched : Dictionary Json,
      Json.merge (.obj stored.entries) (Api.statusPatch s) = .obj patched.entries :=
    exists_merge_eq stored _
  have members (key : String) : patched.find? key =
      if key = "status" then some (.obj ms) else stored.find? key := by
    have found := get?_merge_statusPatch (.obj stored.entries) s key
    rw [merged] at found
    rw [← status, hbefore]
    exact found
  have fields := get?_merge_status before nonempty
  have read := decode_merged_status ordered nonempty legible
  rw [status] at fields read
  refine ⟨patched, ⟨ms, keeps ordered⟩, merged, fun key other => ?_, ?_, read, ?_, ?_,
    fun key apart apart' => ?_⟩
  · rw [members, if_neg other]
  · rw [members, if_pos rfl]
  · rw [← own]
    exact fields "pods"
  · exact fields "conditions"
  · refine (fields key).trans ?_
    rw [if_neg apart', if_neg apart, hbefore]
    cases stored.find? "status" <;> rfl

/-- The status of a server that had a pod when it succeeded in its third generation. -/
def thirdStatus : Status :=
  ⟨["fdo-1"], [⟨"ReconcileSuccess", "True", "Succeeded", "", some 3, ⟨0, 0⟩⟩]⟩

/-- A server with this status, which holds a member besides that no status has. -/
def thirdServer : Dictionary Json where
  entries :=
    [("kind", .str "FDORendezvousServer"),
      ("status", .obj (setEntry "phase" (.str "Running") thirdStatus.toJson.members))]
  ascending := by decide

/-- Neither the pod nor the generation is left of it after a cycle without both. -/
theorem patched_status_read_back_cleared :
    ∃ patched held : Dictionary Json,
      Json.merge (.obj thirdServer.entries)
        (Api.statusPatch (.next (some thirdStatus) [] none none ⟨60, 500000000⟩)) =
          .obj patched.entries ∧
      patched.find? "kind" = some (.str "FDORendezvousServer") ∧
      patched.find? "status" = some (.obj held.entries) ∧
      Json.decode Status.decode (.obj held.entries) =
        .ok ⟨[], [⟨"ReconcileSuccess", "True", "Succeeded", "", none, ⟨0, 0⟩⟩,
          ⟨"ReconcileError", "False", "Succeeded", "", none, ⟨60, 0⟩⟩]⟩ ∧
      held.find? "phase" = some (.str "Running") := by
  have ascending : ∀ before ∈ thirdServer.find? "status", Ascending before.members := by
    rintro before ⟨⟩
    have keys : ["conditions", "phase", "pods"].Pairwise (· < ·) := by decide
    exact List.pairwise_map.mp keys
  have earlier : Time.Legible ⟨0, 0⟩ := ⟨by decide, by decide, by decide⟩
  have times : ∀ c ∈ ((some thirdStatus).map Status.conditions).getD [],
      c.lastTransitionTime.Legible := by
    intro c member
    rw [List.mem_singleton.mp member]
    exact earlier
  have clock : Time.Legible ⟨60, 500000000⟩ := ⟨by decide, by decide, by decide⟩
  obtain ⟨patched, held, merged, others, status, read, -, -, rest⟩ :=
    patched_status_read_back (s := .next (some thirdStatus) [] none none ⟨60, 500000000⟩)
      ascending times clock rfl
  exact ⟨patched, held, merged, others "kind" (by decide), status, read,
    rest "phase" (by decide) (by decide)⟩

end DeviceOnboard.Server
