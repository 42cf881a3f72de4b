import DeviceOnboard.Proofs.OutcomeHistory
import DeviceOnboard.Proofs.RecordedOutcomes
import DeviceOnboard.Proofs.RepeatedCycles

/-!
# Status patches from a cache that lags

A cycle reads its server from a cache, and computes from it the whole list of conditions that it
stores. What other clients have written meanwhile, and what the controller itself has stored but
not yet read, does not go into the list. So a patch leaves the conditions that the cycle has read,
and those that the API server holds only as far as they are the same.
-/
namespace DeviceOnboard.Reconcile

open DeviceOnboard.Cluster DeviceOnboard.Dialogue DeviceOnboard.Json DeviceOnboard.Kubernetes
open DeviceOnboard.Reconcile.Task DeviceOnboard.Server

/-! ## Conditions as they are held -/

/-- The conditions in the status of an object, as the API server holds them. -/
def heldConditions (object : Json) : List Json :=
  (((object.get? "status").bind (·.get? "conditions")).bind Json.arr?).getD []

/-- The text of a member of a condition that is held. -/
def textOf (key : String) (entry : Json) : Option String := (entry.get? key).bind Json.str?

def hasType (type : String) (entry : Json) : Bool := textOf "type" entry == some type

/-- The types of the two conditions that tell how a cycle ended. -/
def outcomeTypes : List String := ["ReconcileSuccess", "ReconcileError"]

/-- The condition is none of those that tell how a cycle ended. -/
def isForeign (entry : Json) : Bool := !outcomeTypes.any fun type => hasType type entry

theorem textOf_toJson {c : Condition} {key text : String}
    (member : (key, .str text) ∈ c.toJson.members) :
    textOf key c.toJson = some text := by
  unfold textOf Json.get?
  rw [findValue?_of_mem (nodup_conditionMembers c) member]
  rfl

theorem hasType_toJson (type : String) (c : Condition) : hasType type c.toJson = ofType type c := by
  have written : textOf "type" c.toJson = some c.type :=
    textOf_toJson (by simp [Condition.toJson, Json.record, Json.members, Members.join, Members.one])
  simp [hasType, ofType, written]

/-- What is held after a patch are the conditions of the status that was patched. -/
theorem heldConditions_patched (object : Json) {s : Status} (nonempty : s.conditions ≠ []) :
    heldConditions (Json.merge object (Api.statusPatch s)) = s.conditions.map Condition.toJson := by
  have status := get?_merge_statusPatch object s "status"
  have conditions := get?_merge_status ((object.get? "status").getD .null) nonempty "conditions"
  rw [if_pos rfl] at status conditions
  rw [heldConditions, status, Option.bind_some, conditions]
  rfl

/-! ## One patch -/

/-- Setting a condition leaves those alone that are told apart from it by their type. -/
theorem filter_setCondition {p : Condition → Bool} {c : Condition} (l : List Condition)
    (apart : ∀ d : Condition, d.type = c.type → p d = false) :
    (Status.setCondition c l).filter p = l.filter p := by
  induction l with
  | nil => simp [Status.setCondition, apart c rfl]
  | cons d l ih =>
    by_cases same : d.type = c.type
    · rw [setCondition_cons_of_eq l same]
      have before : ¬p d := by simp [apart d same]
      have after : ¬p (inPlaceOf (some d) c) := by simp [apart (inPlaceOf (some d) c) rfl]
      rw [List.filter_cons_of_neg before, List.filter_cons_of_neg after]
    · rw [setCondition_cons_of_ne l same, List.filter_cons, List.filter_cons, ih]

theorem isForeign_of_type {c : Condition} (a : Aspect) (same : c.type = a.type) :
    isForeign c.toJson = false := by
  unfold isForeign outcomeTypes
  simp only [List.any_cons, List.any_nil, hasType_toJson, ofType, same]
  cases a <;> decide

/-- The conditions that tell of no cycle are written as they were read, in their order. -/
theorem foreign_update (last : Server.Cycle) (s : Option Status) :
    ((last.update s).conditions.map Condition.toJson).filter isForeign =
      ((conditionsOf s).map Condition.toJson).filter isForeign := by
  have apart (a : Aspect) (d : Condition) (same : d.type = a.type) :
      (isForeign ∘ Condition.toJson) d = false := isForeign_of_type a same
  rw [List.filter_map, List.filter_map]
  congr 1
  exact (filter_setCondition _ (apart .failure)).trans (filter_setCondition _ (apart .success))

/-- The condition of a type that is held for conditions that were written. -/
theorem find?_hasType (type : String) (l : List Condition) :
    (l.map Condition.toJson).find? (hasType type) =
      (l.find? (ofType type)).map Condition.toJson := by
  rw [List.find?_map]
  have same : hasType type ∘ Condition.toJson = ofType type := funext (hasType_toJson type)
  rw [same]

theorem mem_outcomeTypes_iff {type : String} :
    type ∈ outcomeTypes ↔ ∃ a : Aspect, a.type = type := by
  constructor
  · intro member
    rcases List.mem_cons.mp member with rfl | member
    · exact ⟨.success, rfl⟩
    · exact ⟨.failure, (List.mem_singleton.mp member).symm⟩
  · rintro ⟨a, rfl⟩
    cases a <;> decide

/-- The status that a cycle stores is computed from the server that it has read. -/
theorem status_of_patch {server : ServerObject} {routes : Bool} {now : Time} {m : Metrics}
    {log : Log} {outcome : Except Error Action × Metrics} {kind : Kind} {ns name : String}
    {status : Status} {answer : Except Cluster.Error Unit}
    (run : Run (reconcile server routes now m) log outcome)
    (sent : ⟨.patchStatus kind ns name status, answer⟩ ∈ log) :
    ∃ last : Server.Cycle, last.time = now ∧ status = last.update server.status := by
  cases placed : server.metadata.namespace with
  | none =>
    obtain ⟨rfl, -⟩ := (run_reconcile_unplaced_iff placed).mp run
    cases sent
  | some place =>
    obtain ⟨result, pods, -, records⟩ := cycle_records placed run
    rcases records _ sent rfl with ⟨e, -, same⟩ | same | ⟨stored, same⟩
    · cases same
    · cases same
    · cases same
      exact ⟨⟨podsOr server.status pods, server.metadata.generation,
        (error? result).map Error.message, now⟩, rfl, rfl⟩

/-! ## Interleavings -/

/-- A patch of a status that was accepted: the server that the cycle has read, the time at which it
ended, and the object right before the patch and right after it. -/
structure StatusPatch where
  read : ServerObject
  now : Time
  before : Json
  after : Json

/-- The versions of an object that the API server has held, the last one first, and the patches of
its status that cycles have made in between. Others write what they want at any time, and the
version that a cycle reads may be any that was ever held. -/
inductive Interleaved (kind : Kind) : List Json → List StatusPatch → Prop where
  | first (object : Json) : Interleaved kind [object] []
  | written (object : Json) {versions : List Json} {patches : List StatusPatch}
      (past : Interleaved kind versions patches) : Interleaved kind (object :: versions) patches
  | patched {held cached : Json} {versions : List Json} {patches : List StatusPatch}
      {server : ServerObject} {routes : Bool} {now : Time} {m : Metrics} {log : Log}
      {outcome : Except Error Action × Metrics} {ns name : String} {status : Status}
      (past : Interleaved kind (held :: versions) patches) (lagging : cached ∈ held :: versions)
      (read : Json.decode (ServerObject.decode kind) cached = .ok server)
      (run : Run (reconcile server routes now m) log outcome)
      (accepted : ⟨.patchStatus kind ns name status, (.ok () : Except Cluster.Error Unit)⟩ ∈ log) :
      Interleaved kind (Json.merge held (Api.statusPatch status) :: held :: versions)
        (⟨server, now, held, Json.merge held (Api.statusPatch status)⟩ :: patches)

/-- The conditions after a patch are those that a cycle leaves of what it has read. -/
def StatusPatch.FollowsRead (p : StatusPatch) : Prop :=
  ∃ last : Server.Cycle, last.time = p.now ∧
    heldConditions p.after = (last.update p.read.status).conditions.map Condition.toJson

theorem Interleaved.followsRead {kind : Kind} {versions : List Json} {patches : List StatusPatch}
    (run : Interleaved kind versions patches) : ∀ p ∈ patches, p.FollowsRead := by
  induction run with
  | first => simp
  | written _ _ ih => exact ih
  | patched past lagging read run accepted ih =>
    obtain ⟨last, time, rfl⟩ := status_of_patch run accepted
    refine List.forall_mem_cons.mpr ⟨⟨last, time, ?_⟩, ih⟩
    exact heldConditions_patched _ (reports_next _ _ _).conditions_ne_nil

namespace StatusPatch.FollowsRead

variable {p : StatusPatch}

theorem foreign (h : p.FollowsRead) :
    (heldConditions p.after).filter isForeign =
      ((conditionsOf p.read.status).map Condition.toJson).filter isForeign := by
  obtain ⟨last, -, after⟩ := h
  rw [after, foreign_update]

theorem mem_iff (h : p.FollowsRead) {entry : Json} (foreign : isForeign entry = true) :
    entry ∈ heldConditions p.after ↔ ∃ c ∈ conditionsOf p.read.status, c.toJson = entry := by
  have member (l : List Json) : entry ∈ l.filter isForeign ↔ entry ∈ l := by
    rw [List.mem_filter, and_iff_left foreign]
  rw [← member, h.foreign, member, List.mem_map]

/-- The time of a condition that tells of cycles is the one that was read with the same status, or
that of the cycle. -/
theorem time (h : p.FollowsRead) (a : Aspect) :
    ∃ c : Condition, (heldConditions p.after).find? (hasType a.type) = some c.toJson ∧
      c.lastTransitionTime =
        carriedTime c.status p.now ((conditionsOf p.read.status).find? (ofType a.type)) := by
  obtain ⟨last, time, after⟩ := h
  rw [after, find?_hasType, find?_update, ← time]
  exact ⟨_, rfl, rfl⟩

/-- If what was read of a condition is still held, then its time moves only with its status. -/
theorem time_moves (h : p.FollowsRead) (a : Aspect) {d : Condition} {entry : Json}
    (read : (conditionsOf p.read.status).find? (ofType a.type) = some d)
    (stored : (heldConditions p.after).find? (hasType a.type) = some entry)
    (moved : textOf "lastTransitionTime" entry ≠ textOf "lastTransitionTime" d.toJson) :
    textOf "status" entry ≠ textOf "status" d.toJson := by
  obtain ⟨c, found, time⟩ := h.time a
  obtain rfl : c.toJson = entry := Option.some.inj (found.symm.trans stored)
  have timeText (c : Condition) :
      textOf "lastTransitionTime" c.toJson = some c.lastTransitionTime.text :=
    textOf_toJson List.mem_cons_self
  have statusText (c : Condition) : textOf "status" c.toJson = some c.status :=
    textOf_toJson (by simp [Condition.toJson, Json.record, Json.members, Members.join, Members.one])
  rw [timeText, timeText] at moved
  rw [statusText, statusText]
  intro same
  refine moved ?_
  rw [time, read, carriedTime, if_pos (Option.some.inj same).symm]

end StatusPatch.FollowsRead

/-! ## A rendezvous server -/

/-- A rendezvous server with a status, as it is read. -/
def rendezvousWith (status : Option Status) : ServerObject :=
  { serverNamed "fdo" (.rendezvous ⟨RendezvousSpec.defaultImage⟩) with status := status }

/-- A rendezvous server without a status, as it is held. -/
def rendezvousObject : Json :=
  .record
    [.one "metadata" (.record [.one "name" (.str "fdo"), .one "namespace" (.str "devices")]),
      .one "spec" (.record [])]

/-- What a cycle stores for the rendezvous server when all goes well. -/
def succeeded (read : Option Status) (now : Time) : Status := .next read [] none none now

/-- A cycle of the rendezvous server, in a cluster that accepts everything, stores its status. -/
theorem exists_rendezvous_patch (read : Option Status) (now : Time)
    (changed : read ≠ some (succeeded read now)) :
    ∃ log outcome, Run (reconcile (rendezvousWith read) true now .zero) log outcome ∧
      ⟨.patchStatus .rendezvous "devices" "fdo" (succeeded read now),
        (.ok () : Except Cluster.Error Unit)⟩ ∈ log := by
  obtain ⟨applied, applies, -⟩ := exists_run_answeredBy accepting
    (apply (ownerOf (rendezvousWith read) "devices") true (rendezvousWith read).spec).run
  have stores : Stores (rendezvousWith read) (ownerOf (rendezvousWith read) "devices")
      (succeeded read now) _ := .patched changed (.ok ())
  have placed : (rendezvousWith read).metadata.namespace = some "devices" := rfl
  refine ⟨_, _, (run_reconcile_iff placed).mpr
    ⟨.ok .awaitChange, applied, .ok [], _, applies, stores, rfl, rfl⟩, ?_⟩
  exact List.mem_append_right _ (List.mem_cons_of_mem _ (List.mem_singleton_self _))

/-- A condition that another controller keeps. -/
def available : Condition := ⟨"Available", "True", "MinimumReplicas", "", some 1, ⟨978307230, 0⟩⟩

/-- What others make of a status: they add the condition of theirs. -/
def withAvailable (s : Status) : Status := ⟨s.pods, s.conditions ++ [available]⟩

/-! ## All patches of an interleaving -/

/-- In every interleaving of cycles with what others write, whatever version of the object a cycle
has read, and for each patch of the status that was accepted:

- the conditions held after it that do not tell of cycles are those that the cycle has read, as
  they are written and in their order;
- so such a condition that was held before is held after the patch just if the cycle has read it;
- each condition that tells of cycles has the time that was read for it, if it was read with the
  status that it has now, and the time of the cycle otherwise;
- so where the cycle has read the condition that was held, its time moves only with its status. -/
theorem patches_follow_read {kind : Kind} {versions : List Json} {patches : List StatusPatch}
    (run : Interleaved kind versions patches) : ∀ p ∈ patches,
      (heldConditions p.after).filter isForeign =
        ((conditionsOf p.read.status).map Condition.toJson).filter isForeign ∧
      (∀ entry ∈ heldConditions p.before, isForeign entry = true →
        (entry ∈ heldConditions p.after ↔ ∃ c ∈ conditionsOf p.read.status, c.toJson = entry)) ∧
      (∀ type ∈ outcomeTypes, ∃ c : Condition,
        (heldConditions p.after).find? (hasType type) = some c.toJson ∧
        c.lastTransitionTime =
          carriedTime c.status p.now ((conditionsOf p.read.status).find? (ofType type))) ∧
      (∀ type ∈ outcomeTypes, ∀ (d : Condition) (entry : Json),
        (heldConditions p.before).find? (hasType type) = some d.toJson →
        (conditionsOf p.read.status).find? (ofType type) = some d →
        (heldConditions p.after).find? (hasType type) = some entry →
        textOf "lastTransitionTime" entry ≠ textOf "lastTransitionTime" d.toJson →
        textOf "status" entry ≠ textOf "status" d.toJson) := by
  intro p member
  have follows := run.followsRead p member
  refine ⟨follows.foreign, fun entry _ foreign => follows.mem_iff foreign, ?_, ?_⟩
  · intro type told
    obtain ⟨a, rfl⟩ := mem_outcomeTypes_iff.mp told
    exact follows.time a
  · intro type told d entry _ read stored moved
    obtain ⟨a, rfl⟩ := mem_outcomeTypes_iff.mp told
    exact follows.time_moves a read stored moved

/-- A cycle that reads what is held keeps the condition of another controller. -/
theorem patches_follow_read_available :
    ∃ held p versions, Interleaved .rendezvous (p.after :: held :: versions) [p] ∧
      p.before = held ∧ available.toJson ∈ heldConditions p.before ∧
      available.toJson ∈ heldConditions p.after := by
  obtain ⟨held, hheld⟩ : ∃ held, held =
      Json.merge rendezvousObject (Api.statusPatch (withAvailable ⟨[], []⟩)) := ⟨_, rfl⟩
  have read : Json.decode (ServerObject.decode .rendezvous) held =
      .ok (rendezvousWith (some (withAvailable ⟨[], []⟩))) := by
    rw [hheld]
    rfl
  have conditions : heldConditions held = [available.toJson] := by
    rw [hheld]
    exact heldConditions_patched rendezvousObject (by decide)
  obtain ⟨log, outcome, cycle, accepted⟩ :=
    exists_rendezvous_patch (some (withAvailable ⟨[], []⟩)) ⟨978307320, 0⟩ (by decide)
  have run := Interleaved.patched (.first held) List.mem_cons_self read cycle accepted
  have before : available.toJson ∈ heldConditions held := by
    rw [conditions]
    exact List.mem_cons_self
  obtain ⟨-, kept, -, -⟩ := patches_follow_read run _ List.mem_cons_self
  have foreign : isForeign available.toJson = true := by decide
  exact ⟨held, _, [], run, rfl, before,
    (kept _ before foreign).mpr ⟨available, List.mem_cons_self, rfl⟩⟩

/-- A cycle that reads an old version drops the condition that another controller has added, and
moves the time of a condition whose status stays the same. -/
theorem stale_patch_drops_condition :
    ∃ versions patches, Interleaved .rendezvous versions patches ∧ ∃ p ∈ patches,
      (∃ entry ∈ heldConditions p.before, isForeign entry = true ∧
        entry ∉ heldConditions p.after) ∧
      ∃ type ∈ outcomeTypes, ∃ entry entry',
        (heldConditions p.before).find? (hasType type) = some entry ∧
        (heldConditions p.after).find? (hasType type) = some entry' ∧
        textOf "status" entry' = textOf "status" entry ∧
        textOf "lastTransitionTime" entry' ≠ textOf "lastTransitionTime" entry := by
  have read : Json.decode (ServerObject.decode .rendezvous) rendezvousObject =
      .ok (rendezvousWith none) := rfl
  obtain ⟨_, _, cycle, accepted⟩ := exists_rendezvous_patch none ⟨978307200, 0⟩ (by decide)
  obtain ⟨_, _, cycle', accepted'⟩ := exists_rendezvous_patch none ⟨978307320, 0⟩ (by decide)
  have stored :=
    Interleaved.patched (.first rendezvousObject) List.mem_cons_self read cycle accepted
  -- The second cycle still reads the first version, two versions after it.
  have written := stored.written (Json.merge rendezvousObject
    (Api.statusPatch (withAvailable (succeeded none ⟨978307200, 0⟩))))
  have run := written.patched (by simp) read cycle' accepted'
  refine ⟨_, _, run, _, List.mem_cons_self, ?_⟩
  dsimp only
  rw [heldConditions_patched _ (by decide), heldConditions_patched _ (by decide)]
  have told : available ∈ (withAvailable (succeeded none ⟨978307200, 0⟩)).conditions := by decide
  have untold : ∀ c ∈ (succeeded none ⟨978307320, 0⟩).conditions,
      hasType "Available" c.toJson = false := by decide
  refine ⟨⟨available.toJson, List.mem_map_of_mem told, by decide, ?_⟩, "ReconcileSuccess",
    List.mem_cons_self, _, _, rfl, rfl, by decide, by decide⟩
  intro member
  obtain ⟨c, found, same⟩ := List.mem_map.mp member
  have other := untold c found
  rw [same, hasType_toJson] at other
  cases other

end DeviceOnboard.Reconcile
