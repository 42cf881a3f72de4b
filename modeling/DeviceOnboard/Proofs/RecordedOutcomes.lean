import DeviceOnboard.Proofs.CycleRuns
import DeviceOnboard.Proofs.PlannedSteps

/-!
# Outcomes are recorded once

A cycle counts its outcome, warns of a failure, lists the pods and stores the status, in this order
and each at most once. What the cluster answers to this does not change the outcome. Over any
sequence of cycles the counters tell how many cycles of each kind there were, and how many of them
failed.
-/
namespace DeviceOnboard.Reconcile

open DeviceOnboard.Cluster DeviceOnboard.Dialogue DeviceOnboard.Reconcile.Task DeviceOnboard.Server

/-! ## One cycle -/

/-- The call records how a server is doing, and applies none of its objects. -/
def isRecord : Call → Bool
  | .publishWarning .. | .listPodNames .. | .patchStatus .. => true
  | _ => false

theorem planned_not_isRecord (o : Owner) (routes : Bool) (log : Log) (s : Spec) :
    (calls (planOf o routes log s)).all (fun q => !isRecord q) = true := by
  cases s <;> cases routes <;> rfl

/-- Applying the objects of a server records nothing. -/
theorem apply_not_isRecord {o : Owner} {routes : Bool} {s : Spec} {log : Log}
    {result : Except Error Action} (run : Runs (apply o routes s) log result) :
    ∀ entry ∈ log, isRecord entry.1 = false := by
  intro entry member
  have planned : entry.1 ∈ calls (planOf o routes log s) :=
    mem_calls_iff.mpr (calls_planned run entry.1 (List.mem_map_of_mem member))
  simpa using List.all_eq_true.mp (planned_not_isRecord o routes log s) entry.1 planned

/-- The warning is about the server, and bears the text of the error. -/
theorem calls_warnings (server : ServerObject) (result : Except Error Action) :
    (warnings server result).map (·.1) =
      (error? result).toList.map fun e => .publishWarning server.reference e.message := by
  cases result <;> rfl

/-- A status is stored just if it is another one than the server carries. -/
theorem Stores.calls {server : ServerObject} {o : Owner} {status : Status} {stored : Log}
    (stores : Stores server o status stored) :
    stored.map (·.1) = if server.status = some status then []
      else [.patchStatus o.kind o.namespace o.name status] := by
  cases stores with
  | unchanged same => rw [if_pos same]; rfl
  | patched changed => rw [if_neg changed]; rfl

/-- A cycle lists the pods, and its records are this list, a warning, and the patch of a status. -/
theorem cycle_records {server : ServerObject} {routes : Bool} {now : Time} {m : Metrics} {log : Log}
    {outcome : Except Error Action × Metrics} {ns : String}
    (placed : server.metadata.namespace = some ns)
    (run : Run (reconcile server routes now m) log outcome) :
    ∃ result pods, ⟨podsCall (ownerOf server ns), pods⟩ ∈ log ∧
      ∀ entry ∈ log, isRecord entry.1 = true →
        (∃ e, result = .error e ∧
          entry = ⟨.publishWarning server.reference e.message, ()⟩) ∨
        entry = ⟨podsCall (ownerOf server ns), pods⟩ ∨
        ∃ answer, entry = ⟨.patchStatus server.kind ns server.metadata.nameOrStem
          (statusAfter server now result pods), answer⟩ := by
  obtain ⟨result, applied, pods, stored, applies, stores, rfl, -⟩ :=
    (run_reconcile_iff placed).mp run
  refine ⟨result, pods, by simp, fun entry member record => ?_⟩
  rcases List.mem_append.mp member with earlier | later
  · rcases List.mem_append.mp earlier with applying | warning
    · simp [apply_not_isRecord applies entry applying] at record
    · cases result with
      | ok a => cases warning
      | error e => exact .inl ⟨e, rfl, List.mem_singleton.mp warning⟩
  · rcases List.mem_cons.mp later with same | patching
    · exact .inr (.inl same)
    · cases stores with
      | unchanged => cases patching
      | patched changed answer => exact .inr (.inr ⟨answer, List.mem_singleton.mp patching⟩)

theorem count_apply (counter : Kind → Nat) (kind k : Kind) :
    Metrics.count counter kind k = counter k + (kind == k).toNat := by
  unfold Metrics.count
  by_cases same : k = kind
  · simp [same]
  · simp [same, Ne.symm same]

/-- A cycle is counted for its kind, and once more if it failed. -/
theorem counted_apply (m : Metrics) (kind k : Kind) (error : Option Error) :
    (counted m kind error).reconciles k = m.reconciles k + (kind == k).toNat ∧
      (counted m kind error).errors k = m.errors k + (kind == k && error.isSome).toNat := by
  unfold counted
  cases error with
  | none => exact ⟨count_apply m.reconciles kind k, by simp [Metrics.reconciled]⟩
  | some e =>
    refine ⟨count_apply m.reconciles kind k, ?_⟩
    rw [Option.isSome_some, Bool.and_true]
    exact count_apply m.errors kind k

/-! ## Sequences of cycles -/

/-- A cycle of a sequence: what is reconciled, the calls with their answers, the outcome, and the
counters before and after. -/
structure Turn where
  server : ServerObject
  routes : Bool
  now : Time
  before : Metrics
  log : Log
  result : Except Error Action
  after : Metrics

namespace Turn

def IsRun (t : Turn) : Prop :=
  Run (reconcile t.server t.routes t.now t.before) t.log (t.result, t.after)

/-- The cycle counts for a kind: its server is of the kind, and has a namespace. -/
def countsFor (k : Kind) (t : Turn) : Bool :=
  t.server.metadata.namespace.isSome && t.server.kind == k

/-- The cycle counts for a kind, and failed. -/
def failsFor (k : Kind) (t : Turn) : Bool := t.countsFor k && (error? t.result).isSome

/-- How a cycle of a server in a namespace records its outcome: it applies the objects, warns of a
failure, lists the pods, and stores the status. -/
structure Records (t : Turn) (ns : String) (applied warned : Log)
    (pods : Except Cluster.Error (List String)) (stored : Log) : Prop where
  log : t.log = applied ++ warned ++
    ⟨.listPodNames ns (t.server.kind.selector t.server.metadata.nameOrStem), pods⟩ :: stored
  /-- The outcome is that of applying the objects. -/
  outcome : Runs (apply (ownerOf t.server ns) t.routes t.server.spec) applied t.result
  objects : ∀ entry ∈ applied, isRecord entry.1 = false
  /-- The warning is about the server, and bears the text of the error. -/
  warning : warned.map (·.1) =
    (error? t.result).toList.map fun e => .publishWarning t.server.reference e.message
  /-- The status is stored just if the server carries another one, or none. -/
  status : stored.map (·.1) =
    if t.server.status = some (statusAfter t.server t.now t.result pods) then []
    else [.patchStatus t.server.kind ns t.server.metadata.nameOrStem
      (statusAfter t.server t.now t.result pods)]
  /-- The pods that the server carries stand in when they cannot be listed. -/
  unlisted : ∀ e, pods = .error e →
    (statusAfter t.server t.now t.result pods).pods = (t.server.status.map Status.pods).getD []

variable {t : Turn} {ns : String}

theorem IsRun.records (run : t.IsRun) (placed : t.server.metadata.namespace = some ns) :
    ∃ applied warned pods stored, t.Records ns applied warned pods stored := by
  obtain ⟨result, applied, pods, stored, applies, stores, log, outcome⟩ :=
    (run_reconcile_iff placed).mp run
  obtain ⟨rfl, -⟩ := Prod.mk.inj outcome
  exact ⟨applied, warnings t.server t.result, pods, stored, log, applies,
    apply_not_isRecord applies, calls_warnings t.server t.result, stores.calls,
    fun e failed => by rw [failed]; rfl⟩

theorem IsRun.unplaced (run : t.IsRun) (unplaced : t.server.metadata.namespace = none) :
    t.log = [] ∧ t.result = .error (.missingKey "namespace") ∧ t.after = t.before := by
  obtain ⟨log, outcome⟩ := (run_reconcile_unplaced_iff unplaced).mp run
  exact ⟨log, Prod.mk.inj outcome⟩

/-- What a cycle adds to the counters. -/
theorem IsRun.counters (run : t.IsRun) (k : Kind) :
    t.after.reconciles k = t.before.reconciles k + (t.countsFor k).toNat ∧
      t.after.errors k = t.before.errors k + (t.failsFor k).toNat := by
  unfold failsFor countsFor
  cases placed : t.server.metadata.namespace with
  | none =>
    rw [(run.unplaced placed).2.2]
    exact ⟨rfl, rfl⟩
  | some ns =>
    obtain ⟨result, _, _, _, _, _, _, outcome⟩ := (run_reconcile_iff placed).mp run
    obtain ⟨same, after⟩ := Prod.mk.inj outcome
    rw [after, same, Option.isSome_some, Bool.true_and]
    exact counted_apply t.before t.server.kind k (error? result)

end Turn

/-- Cycles one after the other, of any servers, with the counters before the first and after the
last one. -/
inductive Turns : Metrics → List Turn → Metrics → Prop where
  | none (m : Metrics) : Turns m [] m
  | next {t : Turn} {turns : List Turn} {last : Metrics} (run : t.IsRun)
      (rest : Turns t.after turns last) : Turns t.before (t :: turns) last

theorem Turns.isRun {first last : Metrics} {turns : List Turn} (run : Turns first turns last) :
    ∀ t ∈ turns, t.IsRun := by
  induction run with
  | none => simp
  | next run _ ih => exact List.forall_mem_cons.mpr ⟨run, ih⟩

/-- The counters tell of all cycles. -/
theorem Turns.counters {first last : Metrics} {turns : List Turn} (run : Turns first turns last)
    (k : Kind) :
    last.reconciles k = first.reconciles k + turns.countP (Turn.countsFor k) ∧
      last.errors k = first.errors k + turns.countP (Turn.failsFor k) := by
  induction run with
  | none => exact ⟨rfl, rfl⟩
  | @next t turns last run _ ih =>
    have step := run.counters k
    rw [List.countP_cons, List.countP_cons]
    cases counts : t.countsFor k <;> cases fails : t.failsFor k <;> simp_all <;> omega

/-- In every sequence of cycles of servers of any kinds, whatever the cluster answers:

- a cycle of a server without a namespace makes no call, counts nothing and ends with this error;
- any other cycle applies the objects of the server, publishes a warning if that failed, lists the
  pods once, stores the status unless the server carries it already, and ends as applying the
  objects has ended;
- each cycle of a server with a namespace is counted once for its kind, and once more if it fails,
  and no other counter moves. So the counters tell how many cycles there were of a kind and how many
  of them failed, and never more failures than cycles.

Every source of answers leads to such a cycle, for every server and from all counters. -/
theorem outcomes_recorded_once :
    (∀ (first last : Metrics) (turns : List Turn), Turns first turns last →
      (∀ t ∈ turns,
        (t.server.metadata.namespace = none →
          t.log = [] ∧ t.result = .error (.missingKey "namespace") ∧ t.after = t.before) ∧
        (∀ ns, t.server.metadata.namespace = some ns →
          ∃ applied warned pods stored, t.Records ns applied warned pods stored) ∧
        ∀ k, t.after.reconciles k = t.before.reconciles k + (t.countsFor k).toNat ∧
          t.after.errors k = t.before.errors k + (t.failsFor k).toNat) ∧
      ∀ k, last.reconciles k = first.reconciles k + turns.countP (Turn.countsFor k) ∧
        last.errors k = first.errors k + turns.countP (Turn.failsFor k) ∧
        (first.errors k ≤ first.reconciles k → last.errors k ≤ last.reconciles k)) ∧
    ∀ (server : ServerObject) (routes : Bool) (now : Time) (m : Metrics) (σ : Type)
      (answer : (q : Call) → σ → q.Answer × σ) (state : σ),
      ∃ log, Run (reconcile server routes now m) log
        ((reconcile server routes now m).answered answer state).1 := by
  refine ⟨fun first last turns run => ⟨fun t member => ?_, fun k => ?_⟩,
    fun server routes now m σ answer state => exists_run_answered answer _ state⟩
  · have isRun := run.isRun t member
    exact ⟨isRun.unplaced, fun ns placed => isRun.records placed, isRun.counters⟩
  · obtain ⟨reconciles, errors⟩ := run.counters k
    have fewer : turns.countP (Turn.failsFor k) ≤ turns.countP (Turn.countsFor k) :=
      List.countP_mono_left fun t _ fails => (Bool.and_eq_true_iff.mp fails).1
    exact ⟨reconciles, errors, fun before => by omega⟩

end DeviceOnboard.Reconcile
