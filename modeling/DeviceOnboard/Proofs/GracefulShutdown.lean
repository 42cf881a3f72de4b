import DeviceOnboard.Controller.Process
import DeviceOnboard.Proofs.CycleRuns
import Mathlib.Data.List.Infix
import Mathlib.Logic.Hydra

/-!
# A shutdown waits for the reconciles that are running

From the signal on, a graceful controller takes nothing in, so what is left to do is to finish the
reconciles that are running. Each step brings one of them closer to its end, and the controller
ends only when all of them are there: nobody gives up a reconcile, and the process returns.
-/
namespace DeviceOnboard

namespace Dialogue

variable {Q : Type} {A : Q → Type} {α : Type}

/-- A dialogue goes on with another one after some answer. -/
def Continues (d' d : Dialogue Q A α) : Prop :=
  ∃ q next, ∃ a : A q, d = .ask q next ∧ d' = next a

/-- No dialogue goes on forever. -/
theorem wellFounded_continues : WellFounded (@Continues Q A α) := by
  refine ⟨fun d => ?_⟩
  induction d with
  | done r =>
    refine ⟨_, ?_⟩
    rintro _ ⟨q, next, a, same, -⟩
    cases same
  | ask q next ih =>
    refine ⟨_, ?_⟩
    rintro _ ⟨q', next', a, same, rfl⟩
    cases same
    exact ih a

end Dialogue

namespace Controller

open Dialogue Reconcile

/-! ## Jobs -/

namespace Job

variable {routes : Bool} {j : Job}

/-- What a job has done is a part of a reconcile of its server, and all of one if it has finished;
it is not cut short. -/
def Sound (routes : Bool) (j : Job) : Prop :=
  match j.state with
  | .running rest => ∀ log outcome, Run rest log outcome →
      Run (reconcile j.server routes j.now j.metrics) (j.log ++ log) outcome
  | .finished outcome => Run (reconcile j.server routes j.now j.metrics) j.log outcome
  | .cut => False

theorem sound_start (server : Server.ServerObject) (now : Time) (metrics : Metrics) :
    (Job.start routes server now metrics).Sound routes := fun _ _ run => run

theorem Sound.answered (sound : j.Sound routes) {q : Cluster.Call}
    {next : q.Answer → Cluster.Dialogue Outcome} (asks : j.state = .running (.ask q next))
    (a : q.Answer) : (j.answered q a (next a)).Sound routes := by
  intro log outcome run
  rw [Sound, asks] at sound
  rw [Job.answered, List.append_assoc]
  exact sound _ outcome (.ask q next a log outcome run)

theorem Sound.finish (sound : j.Sound routes) {outcome : Outcome}
    (done : j.state = .running (.done outcome)) : (j.finish outcome).Sound routes := by
  rw [Sound, done] at sound
  simpa [Sound, Job.finish] using sound [] outcome (.done outcome)

/-- A job that is not running is left as it is. -/
theorem abandon_eq_self (idle : j.rest? = none) : j.abandon = j := by
  unfold rest? at idle
  unfold abandon
  cases h : j.state with
  | running rest => simp [h] at idle
  | finished => rfl
  | cut => rfl

theorem Sound.not_cut (sound : j.Sound routes) : j.state ≠ .cut := by
  intro cut
  simp [Sound, cut] at sound

theorem Sound.run (sound : j.Sound routes) {outcome : Outcome}
    (finished : j.state = .finished outcome) :
    Run (reconcile j.server routes j.now j.metrics) j.log outcome := by
  simpa [Sound, finished] using sound

/-- The job has gone through a whole reconcile of its server. -/
def Complete (routes : Bool) (j : Job) : Prop :=
  ∃ outcome, j.state = .finished outcome ∧
    Run (reconcile j.server routes j.now j.metrics) j.log outcome

theorem Sound.complete (sound : j.Sound routes) (idle : j.rest? = none) : j.Complete routes := by
  unfold rest? at idle
  cases h : j.state with
  | running rest => simp [h] at idle
  | finished outcome => exact ⟨outcome, h, sound.run h⟩
  | cut => exact absurd h sound.not_cut

end Job

namespace Process

variable {σ : Type} {R : Runtime σ} {routes : Bool} {trace : List Event} {p q : Process σ}
  {e : Event}

/-! ## What holds of a process at any time -/

theorem running_eq_nil_iff : p.running = [] ↔ ∀ j ∈ p.jobs, j.rest? = none := by
  simp [running]

/-- What holds of a process that has come through some events. -/
structure Orderly (routes : Bool) (trace : List Event) (p : Process σ) : Prop where
  sound : ∀ j ∈ p.jobs, j.Sound routes
  started : p.jobs.map (·.server) = trace.filterMap Event.started?
  signaled : .signaled ∈ trace → p.closing = true
  selecting : p.phase = .selecting → p.closing = false
  releasing : ∀ ended, p.phase = .releasing ended → p.closing = true
  idle : p.phase.working = false → ∀ j ∈ p.jobs, j.rest? = none
  released : p.released = true ↔ p.phase = .returned

theorem orderly_start (s : σ) : Orderly routes [] (start s) where
  sound := List.forall_mem_nil _
  started := rfl
  signaled member := absurd member List.not_mem_nil
  selecting _ := rfl
  releasing _ phase := by cases phase
  idle _ := List.forall_mem_nil _
  released := by simp [start]

theorem filterMap_started_concat :
    (trace ++ [e]).filterMap Event.started? =
      trace.filterMap Event.started? ++ e.started?.toList := by
  cases h : e.started? <;> simp [h]

theorem forall_mem_replace {α : Type} {P : α → Prop} {before after : List α} {a b : α}
    (all : ∀ x ∈ before ++ a :: after, P x) (new : P b) : ∀ x ∈ before ++ b :: after, P x := by
  obtain ⟨front, _, back⟩ : (∀ x ∈ before, P x) ∧ P a ∧ ∀ x ∈ after, P x := by
    simpa [or_imp, forall_and] using all
  simpa [or_imp, forall_and] using ⟨front, new, back⟩

/-- While the controller is at work, only the jobs change. -/
theorem Orderly.work (orderly : Orderly routes trace p) (works : p.phase.working = true) {s : σ}
    {jobs : List Job} (other : e ≠ .signaled) (sound : ∀ j ∈ jobs, j.Sound routes)
    (servers : jobs.map (·.server) = p.jobs.map (·.server) ++ e.started?.toList) :
    Orderly routes (trace ++ [e]) { p with runtime := s, jobs := jobs } where
  sound := sound
  started := by rw [filterMap_started_concat, ← orderly.started, servers]
  signaled member := orderly.signaled (by simpa [Ne.symm other] using member)
  selecting := orderly.selecting
  releasing := orderly.releasing
  idle idle := absurd (works.symm.trans idle) (by decide)
  released := orderly.released

/-- The process that returns gives no reconcile up, since none is running. -/
theorem Orderly.leave (orderly : Orderly routes trace p) (idle : ∀ j ∈ p.jobs, j.rest? = none) :
    Orderly routes (trace ++ [.returned]) p.leave := by
  have kept : p.jobs.map Job.abandon = p.jobs :=
    (List.map_congr_left fun j member => Job.abandon_eq_self (idle j member)).trans (List.map_id _)
  refine ⟨?_, ?_, ?_, nofun, nofun, fun _ => ?_, ?_⟩
  · simpa only [Process.leave, kept] using orderly.sound
  · rw [filterMap_started_concat, ← orderly.started]
    simp [Process.leave, kept, Event.started?]
  · simpa [Process.leave] using orderly.signaled
  · simpa only [Process.leave, kept] using idle
  · simp [Process.leave]

/-- A step keeps the process orderly. -/
theorem Orderly.step (graceful : R.Graceful) (orderly : Orderly routes trace p)
    (step : Step R routes p e q) : Orderly routes (trace ++ [e]) q := by
  cases step with
  | change works taken =>
    exact orderly.work works nofun orderly.sound (by simp [Event.started?])
  | due works taken now metrics =>
    refine orderly.work works nofun (List.forall_mem_append.mpr ⟨orderly.sound, ?_⟩) (by
      simp [Event.started?, Job.start])
    exact List.forall_mem_singleton.mpr (Job.sound_start _ now metrics)
  | @call before after j question next among asks a =>
    have sound := orderly.sound
    rw [among] at sound
    have works : p.phase.working = true := by
      by_contra idle
      have stopped := orderly.idle (by simpa using idle) j (by simp [among])
      simp [Job.rest?, asks] at stopped
    refine orderly.work works nofun ?_ (by simp [among, Job.answered, Event.started?])
    exact forall_mem_replace sound ((sound j (by simp)).answered asks a)
  | @settle before after j outcome s' works among done settles =>
    have sound := orderly.sound
    rw [among] at sound
    refine orderly.work works nofun ?_ (by simp [among, Job.finish, Event.started?])
    exact forall_mem_replace sound ((sound j (by simp)).finish done)
  | signal waits =>
    refine ⟨orderly.sound, ?_, fun _ => rfl, nofun, fun _ _ => rfl, nofun, ?_⟩
    · rw [filterMap_started_concat, ← orderly.started]
      exact (List.append_nil _).symm
    · simpa [waits] using orderly.released
  | complete waits ends =>
    exact orderly.leave (running_eq_nil_iff.mp (graceful.ends_idle _ _ _ ends))
  | ended waits ends =>
    have idle := running_eq_nil_iff.mp (graceful.ends_idle _ _ _ ends)
    have closing := orderly.releasing false waits
    refine ⟨orderly.sound, ?_, fun _ => closing, nofun, fun _ _ => closing, fun _ => idle, ?_⟩
    · rw [filterMap_started_concat, ← orderly.started]
      exact (List.append_nil _).symm
    · simpa [waits] using orderly.released
  | @release ended waits releases =>
    obtain rfl := (graceful.releases_after ended).mp releases
    exact orderly.leave (orderly.idle (by rw [waits]; rfl))

/-- A process is orderly at any time. -/
theorem Steps.orderly (graceful : R.Graceful) {s : σ} (steps : Steps R routes (start s) trace p) :
    Orderly routes trace p := by
  induction steps with
  | none => exact orderly_start s
  | more past step ih => exact ih.step graceful step

/-! ## After the signal -/

theorem not_took_of_closing (graceful : R.Graceful) (closing : p.closing = true)
    (step : Step R routes p e q) (t : Trigger) : e ≠ .took t := by
  rintro rfl
  cases step with
  | change works taken => exact graceful.takes_nothing _ _ _ (closing ▸ taken)
  | due works taken => exact graceful.takes_nothing _ _ _ (closing ▸ taken)

/-- No trigger is taken after the signal. -/
theorem Steps.no_trigger_after_signal (graceful : R.Graceful) {s : σ}
    (steps : Steps R routes (start s) trace p) :
    trace.Pairwise fun e e' => e = .signaled → ∀ t, e' ≠ .took t := by
  induction steps with
  | none => exact .nil
  | more past step ih =>
    refine List.pairwise_append.mpr ⟨ih, List.pairwise_singleton _ _, fun e member e' last => ?_⟩
    rintro rfl
    obtain rfl := List.mem_singleton.mp last
    exact not_took_of_closing graceful ((past.orderly graceful).signaled member) step

/-! ## What is left to do -/

/-- What the running jobs still have to do. -/
def rests (jobs : List Job) : Multiset (Cluster.Dialogue Outcome) := (jobs.filterMap Job.rest? :)

theorem rests_split {before after : List Job} {j : Job} :
    rests (before ++ j :: after) = rests before + (j.rest?.toList + rests after) := by
  cases h : j.rest? <;> simp [rests, h, ← Multiset.coe_add]

/-- Less is left to do when a job goes on with its dialogue, or finishes. -/
theorem cutExpand_rests {before after : List Job} {j j' : Job} {d : Cluster.Dialogue Outcome}
    (rest : j.rest? = some d) (less : ∀ d' ∈ j'.rest?, Continues d' d) :
    Relation.CutExpand Continues (rests (before ++ j' :: after))
      (rests (before ++ j :: after)) := by
  refine ⟨j'.rest?.toList, d, by simpa using less, ?_⟩
  rw [rests_split, rests_split, rest]
  simp only [Option.toList_some, Multiset.coe_singleton]
  ac_rfl

/-! ## The way to the end -/

/-- However a process goes on, it gets to a state with a property: it is there, or it has a step to
go and gets there from every state that a step leads to. -/
inductive Inevitable (R : Runtime σ) (routes : Bool) (P : Process σ → Prop) :
    Process σ → Prop where
  | now {p : Process σ} (here : P p) : Inevitable R routes P p
  | later {p : Process σ} (goes : ∃ e q, Step R routes p e q)
      (on : ∀ e q, Step R routes p e q → Inevitable R routes P q) : Inevitable R routes P p

/-- The process has returned, and each of the servers has gone through a whole reconcile. -/
structure Over (routes : Bool) (servers : List Server.ServerObject) (p : Process σ) : Prop where
  returned : p.phase = .returned
  released : p.released = true
  servers : p.jobs.map (·.server) = servers
  complete : ∀ j ∈ p.jobs, j.Complete routes

theorem Orderly.complete (orderly : Orderly routes trace p)
    (idle : ∀ j ∈ p.jobs, j.rest? = none) : ∀ j ∈ p.jobs, j.Complete routes :=
  fun j member => (orderly.sound j member).complete (idle j member)

/-- The servers of the jobs stay the same once the controller closes. -/
theorem Orderly.servers_step (graceful : R.Graceful) (orderly : Orderly routes trace p)
    (closing : p.closing = true) (step : Step R routes p e q) :
    q.jobs.map (·.server) = p.jobs.map (·.server) := by
  have none : e.started? = none := by
    cases e with
    | took t => exact absurd rfl (not_took_of_closing graceful closing step t)
    | _ => rfl
  rw [(orderly.step graceful step).started, filterMap_started_concat, none, orderly.started]
  exact List.append_nil _

/-- When the controller has ended, all that is left is to release the hold and return. -/
theorem inevitable_of_ended (graceful : R.Graceful) (orderly : Orderly routes trace p)
    (phase : p.phase = .releasing true) :
    Inevitable R routes (Over routes (p.jobs.map (·.server))) p := by
  have idle := orderly.idle (by rw [phase]; rfl)
  have closing := orderly.releasing true phase
  refine .later ⟨_, _, .release phase ((graceful.releases_after true).mpr rfl)⟩ fun e q step => ?_
  have servers := orderly.servers_step graceful closing step
  have next := orderly.step graceful step
  cases step with
  | release waits releases =>
    refine .now ⟨rfl, rfl, servers, next.complete ?_⟩
    exact next.idle rfl
  | change works | due works | settle works => simp [phase, Phase.working] at works
  | signal waits | complete waits | ended waits => simp [phase] at waits
  | @call before after j question next' among asks a =>
    have stopped := idle j (by simp [among])
    simp [Job.rest?, asks] at stopped

/-- There is a step to go as long as the controller closes and has not ended. -/
theorem exists_step (graceful : R.Graceful) (orderly : Orderly routes trace p)
    (phase : p.phase = .releasing false) : ∃ e q, Step R routes p e q := by
  have works : p.phase.working = true := by rw [phase]; rfl
  by_cases idle : p.running = []
  · have closing := orderly.releasing false phase
    have ends : R.ends p.closing p.runtime p.running := by
      rw [closing, idle]
      exact graceful.ends_closing p.runtime
    exact ⟨_, _, .ended phase ends⟩
  · rw [running_eq_nil_iff] at idle
    push Not at idle
    obtain ⟨j, member, runs⟩ := idle
    obtain ⟨before, after, among⟩ := List.append_of_mem member
    cases state : j.state with
    | running rest =>
      cases rest with
      | done outcome =>
        obtain ⟨s', settles⟩ := graceful.lets_finish p.closing p.runtime
          (.ofMetadata j.server.metadata) outcome.1
        exact ⟨_, _, .settle works among state settles⟩
      | ask q next => exact ⟨_, _, .call among state (accepting q)⟩
    | finished | cut => simp [Job.rest?, state] at runs

/-- When the controller closes, the process returns after all jobs have finished. -/
theorem inevitable_of_closing (graceful : R.Graceful) (orderly : Orderly routes trace p)
    (phase : p.phase = .releasing false) :
    Inevitable R routes (Over routes (p.jobs.map (·.server))) p := by
  have closing := orderly.releasing false phase
  -- the induction is on what the running jobs have left to do
  induction left : rests p.jobs using wellFounded_continues.cutExpand.induction
    generalizing p trace with
  | _ left ih =>
    refine .later (exists_step graceful orderly phase) fun e q step => ?_
    have servers := orderly.servers_step graceful closing step
    have next := orderly.step graceful step
    rw [← servers]
    cases step with
    | change works taken => exact absurd taken (closing ▸ graceful.takes_nothing _ _ _)
    | due works taken => exact absurd taken (closing ▸ graceful.takes_nothing _ _ _)
    | @call before after j question next' among asks a =>
      have rest : j.rest? = some (.ask question next') := by rw [Job.rest?, asks]
      refine ih _ ?_ next phase closing rfl
      rw [← left, among]
      refine cutExpand_rests rest fun d' member => ?_
      obtain rfl : next' a = d' := Option.some.inj member
      exact ⟨question, next', a, rfl, rfl⟩
    | @settle before after j outcome s' works among done settles =>
      have rest : j.rest? = some (.done outcome) := by rw [Job.rest?, done]
      refine ih _ ?_ next phase closing rfl
      rw [← left, among]
      exact cutExpand_rests rest nofun
    | ended waits ends => exact inevitable_of_ended graceful next rfl
    | signal waits => simp [phase] at waits
    | complete waits => simp [phase] at waits
    | @release ended waits releases =>
      obtain rfl := (graceful.releases_after ended).mp releases
      simp [phase] at waits

/-- After the signal a process returns, however it goes on, when all its jobs have finished. -/
theorem Steps.inevitable_return (graceful : R.Graceful) {s : σ}
    (steps : Steps R routes (start s) trace p) (signaled : .signaled ∈ trace) :
    Inevitable R routes (Over routes (p.jobs.map (·.server))) p := by
  have orderly := steps.orderly graceful
  cases phase : p.phase with
  | selecting =>
    have stillOpen := orderly.selecting phase
    rw [orderly.signaled signaled] at stillOpen
    cases stillOpen
  | releasing ended =>
    cases ended with
    | false => exact inevitable_of_closing graceful orderly phase
    | true => exact inevitable_of_ended graceful orderly phase
  | returned =>
    have idle := orderly.idle (by rw [phase]; rfl)
    exact .now ⟨phase, orderly.released.mpr phase, rfl, orderly.complete idle⟩

/-- Whatever the watches report, whatever the cluster answers and whenever the signal comes: after
it the controller takes nothing in, so no reconcile starts, be its server queued or scheduled for
another try. No reconcile is cut short; one that has finished has gone through all of its steps,
with the warning of a failure and with the status. The process returns and releases its hold on the
shutdown only when all reconciles have finished, and after the signal it does so in any case. -/
theorem shutdown_completes_reconciles (graceful : R.Graceful) {s : σ}
    (steps : Steps R routes (start s) trace p) :
    (trace.Pairwise fun e e' => e = .signaled → ∀ t, e' ≠ .took t) ∧
    p.jobs.map (·.server) = trace.filterMap Event.started? ∧
    (∀ j ∈ p.jobs, j.state ≠ .cut ∧ ∀ outcome, j.state = .finished outcome →
      Run (reconcile j.server routes j.now j.metrics) j.log outcome ∧
      ∀ ns, j.server.metadata.namespace = some ns → ∃ result applied pods stored,
        Task.Runs (apply (ownerOf j.server ns) routes j.server.spec) applied result ∧
        Stores j.server (ownerOf j.server ns) (statusAfter j.server j.now result pods) stored ∧
        j.log = applied ++ warnings j.server result ++
          ⟨podsCall (ownerOf j.server ns), pods⟩ :: stored) ∧
    (p.released = true ↔ p.phase = .returned) ∧
    (p.phase = .returned → ∀ j ∈ p.jobs, ∃ outcome, j.state = .finished outcome) ∧
    (.signaled ∈ trace → Inevitable R routes (Over routes (p.jobs.map (·.server))) p) := by
  have orderly := steps.orderly graceful
  refine ⟨steps.no_trigger_after_signal graceful, orderly.started, fun j member => ⟨?_, ?_⟩,
    orderly.released, fun returned j member => ?_, steps.inevitable_return graceful⟩
  · exact (orderly.sound j member).not_cut
  · intro outcome finished
    have run := (orderly.sound j member).run finished
    refine ⟨run, fun ns placed => ?_⟩
    obtain ⟨result, applied, pods, stored, runs, stores, log, -⟩ :=
      (run_reconcile_iff placed).mp run
    exact ⟨result, applied, pods, stored, runs, stores, log⟩
  · have idle := orderly.idle (by rw [returned]; rfl)
    obtain ⟨outcome, finished, -⟩ := orderly.complete idle j member
    exact ⟨outcome, finished⟩

end Process

/-! ## A controller with a schedule -/

/-- A controller without a server in its schedule. -/
def dequeue (c : Controller) (key : Key) : Controller :=
  { c with schedule := ⟨c.schedule.entries.filter fun e => e.1 != key⟩ }

/-- The controller of this library as one that closes: while it is open it takes note of changes
and takes servers that are due off its schedule. -/
def Runtime.scheduled : Runtime Controller where
  takes closing c t c' := closing = false ∧
    match t with
    | .change change => ∃ second, c' = c.observe second change
    | .due server => ∃ second, ∃ key ∈ c.schedule.due second,
        c.servers.lookup key = some server ∧ c' = c.dequeue key
  settles _ c key result c' := ∃ second, c' = c.settle key second result
  ends closing _ running := closing = true ∧ running = []
  releases ended := ended = true

theorem graceful_scheduled : Runtime.scheduled.Graceful where
  takes_nothing _ _ _ taken := by cases taken.1
  lets_finish _ c key result := ⟨_, 0, rfl⟩
  ends_idle _ _ _ ends := ends.2
  ends_closing _ := ⟨rfl, rfl⟩
  releases_after _ := Iff.rfl

namespace Process

variable {routes : Bool} {p : Process Controller}

theorem step_observe (works : p.phase.working = true) (stillOpen : p.closing = false)
    (second : Nat) (c : Change) : Step .scheduled routes p (.took (.change c))
      { p with runtime := p.runtime.observe second c } :=
  .change works ⟨stillOpen, second, rfl⟩

theorem step_due (works : p.phase.working = true) (stillOpen : p.closing = false)
    {server : Server.ServerObject} {key : Key} {second : Nat}
    (due : key ∈ p.runtime.schedule.due second)
    (known : p.runtime.servers.lookup key = some server) (now : Time) (metrics : Metrics) :
    Step .scheduled routes p (.took (.due server))
      { p with
        runtime := p.runtime.dequeue key
        jobs := p.jobs ++ [.start routes server now metrics] } := by
  have takes :
      Runtime.scheduled.takes p.closing p.runtime (.due server) (p.runtime.dequeue key) :=
    ⟨stillOpen, second, key, due, known, rfl⟩
  exact .due works takes now metrics

/-- A rendezvous server of the namespace `devices`. -/
def rendezvousNamed (name : String) : Server.ServerObject :=
  serverNamed name (.rendezvous ⟨"fdo:1.0"⟩)

/-- A controller that two servers were reported to. -/
def edgeAndHub : Controller :=
  ((Controller.start .rendezvous).observe 0 (.server (rendezvousNamed "edge"))).observe 0
    (.server (rendezvousNamed "hub"))

/-- The signal comes while the reconcile of one server is running and another server is queued: the
first reconcile finishes in any case, and the other one does not start. -/
theorem shutdown_leaves_queued : ∃ trace p,
    Runtime.scheduled.Graceful ∧
      Steps .scheduled true (.start (Controller.start .rendezvous)) trace p ∧
      .signaled ∈ trace ∧ p.running = [rendezvousNamed "edge"] ∧
      p.runtime.due 0 = [rendezvousNamed "hub"] ∧
      Inevitable .scheduled true (Over true [rendezvousNamed "edge"]) p := by
  have queued : Steps .scheduled true (.start (Controller.start .rendezvous)) _
      (.start edgeAndHub) :=
    (Steps.none.more (step_observe rfl rfl 0 (.server (rendezvousNamed "edge")))).more
      (step_observe rfl rfl 0 (.server (rendezvousNamed "hub")))
  have due : (⟨some "devices", "edge"⟩ : Key) ∈ edgeAndHub.schedule.due 0 := by decide
  have known : edgeAndHub.servers.lookup ⟨some "devices", "edge"⟩ =
      some (rendezvousNamed "edge") := rfl
  have closing := (queued.more (step_due rfl rfl due known ⟨0, 0⟩ .zero)).more (.signal rfl)
  obtain ⟨-, -, -, -, -, returns⟩ := shutdown_completes_reconciles graceful_scheduled closing
  exact ⟨_, _, graceful_scheduled, closing, by simp, rfl, rfl, returns (by simp)⟩

end Process

end Controller

end DeviceOnboard
