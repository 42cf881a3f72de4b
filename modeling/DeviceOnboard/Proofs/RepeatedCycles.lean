import DeviceOnboard.Proofs.ApplyRuns
import DeviceOnboard.Proofs.CycleRuns
import DeviceOnboard.Proofs.PatchedStatus

/-!
# Repeated cycles

Storing a status wakes the controller, so a cycle that stored another status each time would
never end. Here a server is reconciled again and again, with the status that each cycle leaves
and under the same answers of the cluster: all cycles do the same and end the same, and at most the
first of them stores a status.
-/
namespace DeviceOnboard.Reconcile

open DeviceOnboard.Cluster DeviceOnboard.Dialogue DeviceOnboard.Json DeviceOnboard.Reconcile.Task
open DeviceOnboard.Server

/-! ## What a cycle leaves -/

/-- What is held as the status of a server after the calls of a log: each status that is accepted
is merged into it, which is what the patch of the object does to its status
(`get?_merge_statusPatch`). -/
def heldAfter (held : Json) : Log → Json
  | [] => held
  | ⟨.patchStatus _ _ _ status, answer⟩ :: log =>
    match (answer : Except Cluster.Error Unit) with
    | .ok _ => heldAfter (Json.merge held status.toJson) log
    | .error _ => heldAfter held log
  | _ :: log => heldAfter held log

/-- A server carries the status that is held for it. -/
structure Carries (server : ServerObject) (held : Json) : Prop where
  status : Json.decode Status.decode.nullable held = .ok server.status
  ascending : Ascending held.members

theorem Carries.status_eq {server server' : ServerObject} {held : Json}
    (carries : Carries server held) (carries' : Carries server' held) :
    server.status = server'.status :=
  Except.ok.inj (carries.status.symm.trans carries'.status)

/-- A server that is met again has the specification and the identity that it had. -/
structure SameServer (server server' : ServerObject) : Prop where
  spec : server'.spec = server.spec
  name : server'.metadata.name = server.metadata.name
  generateName : server'.metadata.generateName = server.metadata.generateName
  «namespace» : server'.metadata.namespace = server.metadata.namespace
  uid : server'.metadata.uid = server.metadata.uid
  generation : server'.metadata.generation = server.metadata.generation

theorem SameServer.kind {server server' : ServerObject} (same : SameServer server server') :
    server'.kind = server.kind := by
  unfold ServerObject.kind
  rw [same.spec]

theorem SameServer.owner {server server' : ServerObject} (same : SameServer server server')
    (ns : String) : ownerOf server' ns = ownerOf server ns := by
  unfold ownerOf Owner.referenceOf Kubernetes.ObjectMeta.nameOrStem
  rw [same.kind, same.name, same.generateName, same.uid]

theorem heldAfter_append (held : Json) (log log' : Log) :
    heldAfter held (log ++ log') = heldAfter (heldAfter held log) log' := by
  induction log generalizing held with
  | nil => rfl
  | cons entry log ih =>
    obtain ⟨q, a⟩ := entry
    cases q with
    | patchStatus kind ns name status =>
      cases (a : Except Cluster.Error Unit) <;> exact ih _
    | _ => exact ih held

/-- Only a status that is stored changes what is held. -/
theorem heldAfter_of_not_reports {held : Json} {log : Log}
    (quiet : ∀ entry ∈ log, reports entry.1 = false) : heldAfter held log = held := by
  induction log with
  | nil => rfl
  | cons entry log ih =>
    obtain ⟨q, a⟩ := entry
    have rest := ih fun e he => quiet e (List.mem_cons_of_mem _ he)
    have first : reports q = false := quiet _ List.mem_cons_self
    cases q with
    | patchStatus => cases first
    | _ => exact rest

/-! ## One cycle -/

/-- The calls of a log that are not reports, with their answers. -/
def operations (log : Log) : Log := log.filter fun entry => !reports entry.1

/-- The call stores a status. -/
def isPatch : Call → Bool
  | .patchStatus .. => true
  | _ => false

/-- The patches of a status in a log. -/
def patches (log : Log) : Log := log.filter fun entry => isPatch entry.1

theorem operations_of_not_reports {log : Log} (quiet : ∀ entry ∈ log, reports entry.1 = false) :
    operations log = log :=
  List.filter_eq_self.mpr fun entry member => by simp [quiet entry member]

theorem patches_of_not_reports {log : Log} (quiet : ∀ entry ∈ log, reports entry.1 = false) :
    patches log = [] := by
  refine List.filter_eq_nil_iff.mpr fun entry member => ?_
  have h := quiet entry member
  obtain ⟨q, a⟩ := entry
  cases q with
  | patchStatus => cases h
  | _ => simp [isPatch]

theorem apply_not_reports {o : Owner} {routes : Bool} {s : Spec} {log : Log}
    {result : Except Error Action} (run : Runs (apply o routes s) log result) :
    ∀ entry ∈ log, reports entry.1 = false := by
  have keeps : Keeps (fun q => reports q = false) (fun _ => True) (apply o routes s) :=
    apply_keeps (fun _ h => h) (fun _ => trivial) (fun _ _ => trivial) fun _ _ => trivial
  exact keeps.calls run

variable {server server' : ServerObject} {ns : String} {result : Except Error Action}
variable {applied stored : Log} {status : Status}

theorem operations_warnings : operations (warnings server result) = [] := by
  cases result <;> rfl

theorem patches_warnings : patches (warnings server result) = [] := by
  cases result <;> rfl

theorem heldAfter_warnings (held : Json) : heldAfter held (warnings server result) = held := by
  cases result <;> rfl

/-- The operations of a cycle are those that apply the objects, and the list of the pods. -/
theorem operations_cycle {pods : Except Cluster.Error (List String)}
    (quiet : ∀ entry ∈ applied, reports entry.1 = false)
    (stores : Stores server (ownerOf server ns) status stored) :
    operations (applied ++ warnings server result ++ ⟨podsCall (ownerOf server ns), pods⟩ :: stored)
      = applied ++ [⟨podsCall (ownerOf server ns), pods⟩] := by
  have none : operations stored = [] := by
    cases stores <;> rfl
  have last : operations (⟨podsCall (ownerOf server ns), pods⟩ :: stored)
      = ⟨podsCall (ownerOf server ns), pods⟩ :: operations stored := rfl
  have split (a b : Log) : operations (a ++ b) = operations a ++ operations b :=
    List.filter_append ..
  rw [split, split, operations_of_not_reports quiet, operations_warnings, last, none,
    List.append_nil]

theorem patches_cycle {pods : Except Cluster.Error (List String)}
    (quiet : ∀ entry ∈ applied, reports entry.1 = false)
    (stores : Stores server (ownerOf server ns) status stored) :
    patches (applied ++ warnings server result ++ ⟨podsCall (ownerOf server ns), pods⟩ :: stored)
      = stored := by
  have all : patches stored = stored := by
    cases stores <;> rfl
  have last : patches (⟨podsCall (ownerOf server ns), pods⟩ :: stored) = patches stored := rfl
  have split (a b : Log) : patches (a ++ b) = patches a ++ patches b := List.filter_append ..
  rw [split, split, patches_of_not_reports quiet, patches_warnings, last, all]
  rfl

theorem heldAfter_cycle {held : Json} {pods : Except Cluster.Error (List String)}
    (quiet : ∀ entry ∈ applied, reports entry.1 = false) :
    heldAfter held
        (applied ++ warnings server result ++ ⟨podsCall (ownerOf server ns), pods⟩ :: stored)
      = heldAfter held stored := by
  rw [heldAfter_append, heldAfter_append, heldAfter_of_not_reports quiet, heldAfter_warnings]
  rfl

theorem Stores.length_le_one {o : Owner} (stores : Stores server o status stored) :
    stored.length ≤ 1 := by
  cases stores <;> simp

/-! ## Servers at rest -/

variable {answer : (q : Call) → q.Answer}

/-- The pods that the answers give for a server. -/
def answeredPods (answer : (q : Call) → q.Answer) (server : ServerObject) (ns : String) :
    Except Cluster.Error (List String) :=
  answer (podsCall (ownerOf server ns))

/-- The status of a server is the one that a cycle with a result ends with. -/
structure AtRest (answer : (q : Call) → q.Answer) (server : ServerObject) (ns : String)
    (result : Except Error Action) : Prop where
  status : ∃ s, server.status = some s ∧
    podsOr (some s) (answeredPods answer server ns) = s.pods ∧
    Reports s server.metadata.generation ((error? result).map Error.message)

theorem podsOr_some {before : Option Status} {s : Status}
    {pods : Except Cluster.Error (List String)} (h : s.pods = podsOr before pods) :
    podsOr (some s) pods = s.pods := by
  cases pods with
  | ok l => exact h.symm
  | error e => rfl

/-- A server at rest gets no other status, whatever the clock says. -/
theorem AtRest.stores_nothing (rest : AtRest answer server ns result) {now : Time} {o : Owner}
    (stores : Stores server o (statusAfter server now result (answeredPods answer server ns))
      stored) : stored = [] := by
  obtain ⟨s, held, pods, reports⟩ := rest.status
  have same : server.status
      = some (statusAfter server now result (answeredPods answer server ns)) := by
    unfold statusAfter
    rw [held, pods, next_of_reports reports]
  cases stores with
  | unchanged => rfl
  | patched changed => exact absurd same changed

/-- A server that is met with the status that a cycle has computed is at rest. -/
theorem atRest_of_status (same : SameServer server server') {s : Status}
    (status : server'.status = some s)
    (pods : s.pods = podsOr server.status (answeredPods answer server ns))
    (reports : Reports s server.metadata.generation ((error? result).map Error.message)) :
    AtRest answer server' ns result := by
  refine ⟨s, status, ?_, same.generation ▸ reports⟩
  unfold answeredPods
  rw [same.owner]
  exact podsOr_some pods

/-- All times in the status of a server can be stored. -/
def TimesStorable (server : ServerObject) : Prop :=
  ∀ c ∈ (server.status.map Status.conditions).getD [], c.lastTransitionTime.Storable

/-- A status that a cycle stores is accepted, and what is held can be read afterwards. -/
theorem decode_heldAfter {held : Json} {now : Time}
    (accepts : ∀ kind ns name s,
      answer (.patchStatus kind ns name s) = (.ok () : Except Cluster.Error Unit))
    (carries : Carries server held) (times : TimesStorable server) (clock : now.Storable)
    {pods : Except Cluster.Error (List String)}
    (stores : Stores server (ownerOf server ns) (statusAfter server now result pods) stored)
    (answered : AnsweredBy answer stored) :
    ∃ s, Json.decode Status.decode.nullable (heldAfter held stored) = .ok (some s) ∧
      s.pods = podsOr server.status pods ∧
      Reports s server.metadata.generation ((error? result).map Error.message) := by
  have reports : Reports (statusAfter server now result pods) server.metadata.generation
      ((error? result).map Error.message) := reports_next _ _ _
  cases stores with
  | unchanged same =>
    refine ⟨_, ?_, rfl, reports⟩
    rw [← same]
    exact carries.status
  | patched changed reply =>
    have accepted : reply = .ok () := (answered _ List.mem_cons_self).trans (accepts ..)
    subst accepted
    have nonempty := reports.conditions_ne_nil
    have decoded := decode_merged_status carries.ascending nonempty
      (times_next clock.legible fun c member => (times c member).legible)
    have present : Json.merge held (statusAfter server now result pods).toJson ≠ .null := by
      obtain ⟨ms, merged, -⟩ := exists_merge_status held (statusAfter server now result pods)
      rw [merged]
      nofun
    exact ⟨_, decode_nullable decoded present, rfl, reports.stored⟩

theorem ascending_heldAfter {held : Json} (ascending : Ascending held.members)
    (stores : Stores server (ownerOf server ns) status stored) :
    Ascending (heldAfter held stored).members := by
  cases stores with
  | unchanged => exact ascending
  | patched changed reply =>
    cases reply with
    | error e => exact ascending
    | ok u =>
      obtain ⟨ms, merged, ordered⟩ := exists_merge_status held status
      show Ascending (Json.merge held status.toJson).members
      rw [merged]
      exact ordered ascending

/-- After a cycle the server is at rest, whether or not a status was stored. -/
theorem atRest_of_stores {held : Json} {now : Time}
    (accepts : ∀ kind ns name s,
      answer (.patchStatus kind ns name s) = (.ok () : Except Cluster.Error Unit))
    (carries : Carries server held) (times : TimesStorable server) (clock : now.Storable)
    (stores : Stores server (ownerOf server ns)
      (statusAfter server now result (answeredPods answer server ns)) stored)
    (answered : AnsweredBy answer stored) (same : SameServer server server')
    (carries' : Carries server' (heldAfter held stored)) : AtRest answer server' ns result := by
  obtain ⟨s, read, pods, reports⟩ :=
    decode_heldAfter accepts carries times clock stores answered
  have status : server'.status = some s := by
    have found := carries'.status
    rw [read] at found
    exact (Except.ok.inj found).symm
  exact atRest_of_status same status pods reports

/-! ## All cycles -/

/-- What happens in a cycle: its calls with their answers, and its outcome. -/
structure Cycle where
  log : Log
  result : Except Error Action

/-- Cycles of a server one after the other, each at some time and with the status that the cycle
before has left. The last value is what is held in the end. -/
inductive Cycles (answer : (q : Call) → q.Answer) (routes : Bool) :
    ServerObject → Json → List Cycle → Json → Prop where
  | one {server : ServerObject} {held : Json} {now : Time} {m m' : Metrics} {log : Log}
      {result : Except Error Action}
      (run : Run (reconcile server routes now m) log (result, m'))
      (answered : AnsweredBy answer log) (clock : now.Storable) :
      Cycles answer routes server held [⟨log, result⟩] (heldAfter held log)
  | more {server server' : ServerObject} {held last : Json} {now : Time} {m m' : Metrics}
      {log : Log} {result : Except Error Action} {cycles : List Cycle}
      (run : Run (reconcile server routes now m) log (result, m'))
      (answered : AnsweredBy answer log) (clock : now.Storable)
      (same : SameServer server server') (carries : Carries server' (heldAfter held log))
      (rest : Cycles answer routes server' (heldAfter held log) cycles last) :
      Cycles answer routes server held (⟨log, result⟩ :: cycles) last

variable {held last : Json} {routes : Bool} {now : Time} {m m' : Metrics} {log : Log}

/-- The parts of a cycle under answers that depend on the call alone. -/
theorem exists_cycle_parts (placed : server.metadata.namespace = some ns)
    (run : Run (reconcile server routes now m) log (result, m'))
    (answered : AnsweredBy answer log) :
    ∃ applied stored, Runs (apply (ownerOf server ns) routes server.spec) applied result ∧
      AnsweredBy answer applied ∧
      Stores server (ownerOf server ns)
        (statusAfter server now result (answeredPods answer server ns)) stored ∧
      AnsweredBy answer stored ∧
      log = applied ++ warnings server result ++
        ⟨podsCall (ownerOf server ns), answeredPods answer server ns⟩ :: stored := by
  obtain ⟨result', applied, pods, stored, h, stores, rfl, outcome⟩ :=
    (run_reconcile_iff placed).mp run
  cases outcome
  have listed : pods = answeredPods answer server ns := answered ⟨podsCall _, pods⟩ (by simp)
  subst listed
  exact ⟨applied, stored, h, fun e member => answered e (by simp [member]), stores,
    fun e member => answered e (by simp [member]), rfl⟩

theorem AtRest.met_again (rest : AtRest answer server ns result)
    (same : SameServer server server') (status : server'.status = server.status) :
    AtRest answer server' ns result := by
  obtain ⟨s, held, pods, reports⟩ := rest.status
  refine ⟨s, status.trans held, ?_, same.generation ▸ reports⟩
  unfold answeredPods at pods ⊢
  rw [same.owner]
  exact pods

/-- From a server at rest all cycles do the same, and store nothing. -/
theorem cycles_at_rest {cycles : List Cycle} (placed : server.metadata.namespace = some ns)
    (carries : Carries server held) (rest : AtRest answer server ns result)
    (applies : Runs (apply (ownerOf server ns) routes server.spec) applied result)
    (answered : AnsweredBy answer applied) (run : Cycles answer routes server held cycles last) :
    (∀ c ∈ cycles, c.result = result ∧ patches c.log = [] ∧ operations c.log
      = applied ++ [⟨podsCall (ownerOf server ns), answeredPods answer server ns⟩]) ∧
      last = held := by
  induction run with
  | one run answeredBy clock =>
    obtain ⟨applied', stored, applies', answered', stores, _, rfl⟩ :=
      exists_cycle_parts placed run answeredBy
    obtain ⟨rfl, rfl⟩ := run_unique applies answered applies' answered'
    obtain rfl := rest.stores_nothing stores
    have quiet := apply_not_reports applies
    rw [heldAfter_cycle quiet, List.forall_mem_singleton, operations_cycle quiet stores,
      patches_cycle quiet stores]
    exact ⟨⟨rfl, rfl, rfl⟩, rfl⟩
  | more run answeredBy clock same carries' _ ih =>
    obtain ⟨applied', stored, applies', answered', stores, _, rfl⟩ :=
      exists_cycle_parts placed run answeredBy
    obtain ⟨rfl, rfl⟩ := run_unique applies answered applies' answered'
    obtain rfl := rest.stores_nothing stores
    have quiet := apply_not_reports applies
    rw [heldAfter_cycle quiet] at carries' ih
    have status := carries'.status_eq carries
    have placed' := same.namespace.trans placed
    have applies' := applies
    rw [← same.owner, ← same.spec] at applies'
    obtain ⟨others, unchanged⟩ := ih placed' carries' (rest.met_again same status) applies'
    refine ⟨List.forall_mem_cons.mpr ⟨⟨rfl, patches_cycle quiet stores,
      operations_cycle quiet stores⟩, ?_⟩, unchanged⟩
    unfold answeredPods at others ⊢
    rwa [same.owner] at others

/-- When a server in a namespace is reconciled again and again, each time with the status that is
held then and under answers that depend on the call alone, all cycles make the calls of the first
one, with the same payloads, and end as it does. Only the first one may store a status, and what is
held can be read after the last one. -/
theorem cycles_agree {first : Cycle} {cycles : List Cycle}
    (placed : server.metadata.namespace = some ns) (carries : Carries server held)
    (times : TimesStorable server)
    (accepts : ∀ kind ns name s,
      answer (.patchStatus kind ns name s) = (.ok () : Except Cluster.Error Unit))
    (run : Cycles answer routes server held (first :: cycles) last) :
    (∀ c ∈ cycles, operations c.log = operations first.log ∧ c.result = first.result ∧
      patches c.log = []) ∧
    ((first :: cycles).flatMap fun c => patches c.log).length ≤ 1 ∧
    ∃ server', SameServer server server' ∧ Carries server' last := by
  cases run with
  | one run answeredBy clock =>
    obtain ⟨applied, stored, applies, answered, stores, answeredStored, rfl⟩ :=
      exists_cycle_parts placed run answeredBy
    have quiet := apply_not_reports applies
    obtain ⟨s, read, -, reports⟩ :=
      decode_heldAfter accepts carries times clock stores answeredStored
    rw [List.flatMap_singleton, patches_cycle quiet stores, heldAfter_cycle quiet]
    refine ⟨by simp, stores.length_le_one, { server with status := some s }, ?_, read, ?_⟩
    · exact ⟨rfl, rfl, rfl, rfl, rfl, rfl⟩
    · exact ascending_heldAfter carries.ascending stores
  | more run answeredBy clock same carries' rest =>
    obtain ⟨applied, stored, applies, answered, stores, answeredStored, rfl⟩ :=
      exists_cycle_parts placed run answeredBy
    have quiet := apply_not_reports applies
    rw [heldAfter_cycle quiet] at carries' rest
    have atRest :=
      atRest_of_stores accepts carries times clock stores answeredStored same carries'
    have applies' := applies
    rw [← same.owner, ← same.spec] at applies'
    obtain ⟨others, unchanged⟩ := cycles_at_rest (same.namespace.trans placed) carries' atRest
      applies' answered rest
    have noPatches : (cycles.flatMap fun c => patches c.log) = [] :=
      List.flatMap_eq_nil_iff.mpr fun c member => (others c member).2.1
    refine ⟨fun c member => ?_, ?_, _, same, unchanged ▸ carries'⟩
    · obtain ⟨result, noPatch, operations⟩ := others c member
      refine ⟨?_, result, noPatch⟩
      rw [operations, operations_cycle quiet stores]
      unfold answeredPods
      rw [same.owner]
    · rw [List.flatMap_cons, noPatches, List.append_nil, patches_cycle quiet stores]
      exact stores.length_le_one

/-- A rendezvous server without a status is reconciled twice: the second cycle stores nothing. -/
theorem cycles_agree_rendezvous :
    ∃ first second last,
      Cycles accepting true (serverNamed "fdo" (.rendezvous ⟨RendezvousSpec.defaultImage⟩)) .null
        [first, second] last ∧
      first.result = .ok .awaitChange ∧ second.result = .ok .awaitChange ∧
      operations second.log = operations first.log ∧ patches second.log = [] := by
  obtain ⟨server, hserver⟩ :
      ∃ s, s = serverNamed "fdo" (.rendezvous ⟨RendezvousSpec.defaultImage⟩) := ⟨_, rfl⟩
  have placed : server.metadata.namespace = some "devices" := by rw [hserver]; rfl
  have carries : Carries server .null := by
    rw [hserver]
    exact ⟨rfl, List.Pairwise.nil⟩
  have times : TimesStorable server := by
    rw [hserver]
    exact fun c member => by cases member
  have clock : Time.Storable ⟨0, 0⟩ := ⟨by decide, by decide, by decide⟩
  have accepts (kind : Kind) (ns name : String) (s : Status) :
      accepting (.patchStatus kind ns name s) = (.ok () : Except Cluster.Error Unit) := rfl
  obtain ⟨log, run, answered⟩ := exists_run_answeredBy accepting
    (reconcile server true ⟨0, 0⟩ .zero)
  obtain ⟨-, -, server', same, carries'⟩ :=
    cycles_agree placed carries times accepts (.one run answered clock)
  obtain ⟨log', run', answered'⟩ := exists_run_answeredBy accepting
    (reconcile server' true ⟨60, 0⟩ .zero)
  have clock' : Time.Storable ⟨60, 0⟩ := ⟨by decide, by decide, by decide⟩
  have both := Cycles.more run answered clock same carries' (.one run' answered' clock')
  obtain ⟨agree, -⟩ := cycles_agree placed carries times accepts both
  obtain ⟨calls, result, noPatch⟩ := agree _ (List.mem_singleton_self _)
  subst hserver
  exact ⟨_, _, _, both, rfl, result.trans rfl, calls, noPatch⟩

end DeviceOnboard.Reconcile
