import DeviceOnboard.Controller.Basic

/-!
# Running a controller until it is shut down

A controller takes triggers, and each server that is due starts a reconcile, which runs beside the
others and makes its calls one by one. The process that runs the controller waits for it and for
the signal to shut down. When the signal comes first, the controller is told to close, and the
process goes on waiting for it; only then does it release its hold on the shutdown and return.

How the controller works inside is a parameter, for it comes with a library: its relations say what
it may take in while it is open or closing, and when its work may end. `Graceful` is what the
library promises of a controller that closes.
-/
namespace DeviceOnboard.Controller

open DeviceOnboard.Server

/-- What a controller takes in. -/
inductive Trigger where
  /-- A watch reports a change; the servers that it asks for are queued. -/
  | change (c : Change)
  /-- The time has come for a server that was queued, or scheduled for another try. -/
  | due (server : ServerObject)

/-- How a controller runs, in states of some type. -/
structure Runtime (σ : Type) where
  /-- What the controller may take in, and the state that follows. -/
  takes : (closing : Bool) → σ → Trigger → σ → Prop
  /-- How the controller takes note of the end of a reconcile. -/
  settles : (closing : Bool) → σ → Key → Except Reconcile.Error Reconcile.Action → σ → Prop
  /-- Whether the work of the controller may end while reconciles of some servers are running. -/
  ends : (closing : Bool) → σ → (running : List ServerObject) → Prop
  /-- Whether the hold on the shutdown may be released, before or after the controller has ended. -/
  releases : (ended : Bool) → Prop

/-- A controller that closes takes nothing more in, lets the running reconciles finish, and ends
when none is left. A hold that is released after the controller waits for its end. -/
structure Runtime.Graceful {σ : Type} (R : Runtime σ) : Prop where
  takes_nothing : ∀ s t s', ¬ R.takes true s t s'
  lets_finish : ∀ closing s key result, ∃ s', R.settles closing s key result s'
  ends_idle : ∀ closing s running, R.ends closing s running → running = []
  ends_closing : ∀ s, R.ends true s []
  releases_after : ∀ ended, R.releases ended ↔ ended = true

/-! ## Reconciles -/

abbrev Outcome := Except Reconcile.Error Reconcile.Action × Metrics

inductive JobState where
  | running (rest : Cluster.Dialogue Outcome)
  | finished (outcome : Outcome)
  /-- The controller was given up while the reconcile was running. -/
  | cut

/-- A reconcile that was started, with the calls that it has made and their answers. -/
structure Job where
  server : ServerObject
  now : Time
  metrics : Metrics
  log : List ((q : Cluster.Call) × q.Answer)
  state : JobState

namespace Job

def start (routes : Bool) (server : ServerObject) (now : Time) (metrics : Metrics) : Job :=
  ⟨server, now, metrics, [], .running (Reconcile.reconcile server routes now metrics)⟩

/-- The job after the answer to its call. -/
def answered (j : Job) (q : Cluster.Call) (a : q.Answer) (rest : Cluster.Dialogue Outcome) : Job :=
  { j with log := j.log ++ [⟨q, a⟩], state := .running rest }

def finish (j : Job) (outcome : Outcome) : Job := { j with state := .finished outcome }

/-- What is left to do. -/
def rest? (j : Job) : Option (Cluster.Dialogue Outcome) :=
  match j.state with
  | .running rest => some rest
  | .finished _ | .cut => none

/-- The job when nobody waits for it any more. -/
def abandon (j : Job) : Job :=
  match j.state with
  | .running _ => { j with state := .cut }
  | .finished _ | .cut => j

end Job

/-! ## The process -/

/-- Where the process stands. -/
inductive Phase where
  /-- It waits for the controller and for the signal, whichever comes first. -/
  | selecting
  /-- The signal has come; it waits for the controller, which may have ended by now. -/
  | releasing (ended : Bool)
  | returned
  deriving DecidableEq, Repr

/-- Whether the controller is at work. -/
def Phase.working : Phase → Bool
  | selecting => true
  | releasing ended => !ended
  | returned => false

structure Process (σ : Type) where
  runtime : σ
  jobs : List Job
  phase : Phase
  /-- The controller was told to close. -/
  closing : Bool
  /-- The hold on the shutdown is released. -/
  released : Bool

namespace Process

variable {σ : Type}

def start (s : σ) : Process σ := ⟨s, [], .selecting, false, false⟩

/-- The servers whose reconciles are running. -/
def running (p : Process σ) : List ServerObject :=
  (p.jobs.filter fun j => j.rest?.isSome).map (·.server)

/-- The process when it returns: the controller is given up, and with it the reconciles that are
still running. -/
def leave (p : Process σ) : Process σ :=
  { p with jobs := p.jobs.map Job.abandon, phase := .returned, released := true }

inductive Event where
  | took (t : Trigger)
  | called (q : Cluster.Call) (a : q.Answer)
  | settled (outcome : Outcome)
  | signaled
  | ended
  | returned

/-- The server of a reconcile that starts. -/
def Event.started? : Event → Option ServerObject
  | took (.due server) => some server
  | _ => none

/-- A step of the process, of its controller or of one of the reconciles. The clock, the counters
and the answers may be any. -/
inductive Step (R : Runtime σ) (routes : Bool) : Process σ → Event → Process σ → Prop where
  | change {p : Process σ} {c : Change} {s' : σ} (works : p.phase.working = true)
      (taken : R.takes p.closing p.runtime (.change c) s') :
      Step R routes p (.took (.change c)) { p with runtime := s' }
  | due {p : Process σ} {server : ServerObject} {s' : σ} (works : p.phase.working = true)
      (taken : R.takes p.closing p.runtime (.due server) s') (now : Time) (metrics : Metrics) :
      Step R routes p (.took (.due server))
        { p with runtime := s', jobs := p.jobs ++ [.start routes server now metrics] }
  | call {p : Process σ} {before after : List Job} {j : Job} {q : Cluster.Call}
      {next : q.Answer → Cluster.Dialogue Outcome} (among : p.jobs = before ++ j :: after)
      (asks : j.state = .running (.ask q next)) (a : q.Answer) :
      Step R routes p (.called q a) { p with jobs := before ++ j.answered q a (next a) :: after }
  | settle {p : Process σ} {before after : List Job} {j : Job} {outcome : Outcome} {s' : σ}
      (works : p.phase.working = true) (among : p.jobs = before ++ j :: after)
      (done : j.state = .running (.done outcome))
      (settles : R.settles p.closing p.runtime (.ofMetadata j.server.metadata) outcome.1 s') :
      Step R routes p (.settled outcome)
        { p with runtime := s', jobs := before ++ j.finish outcome :: after }
  /-- The signal counts from the moment in which the waiting process takes it; in the same step the
  controller is told to close. A signal that has arrived and was not taken changes nothing yet. -/
  | signal {p : Process σ} (waits : p.phase = .selecting) :
      Step R routes p .signaled { p with phase := .releasing false, closing := true }
  | complete {p : Process σ} (waits : p.phase = .selecting)
      (ends : R.ends p.closing p.runtime p.running) : Step R routes p .returned p.leave
  | ended {p : Process σ} (waits : p.phase = .releasing false)
      (ends : R.ends p.closing p.runtime p.running) :
      Step R routes p .ended { p with phase := .releasing true }
  | release {p : Process σ} {ended : Bool} (waits : p.phase = .releasing ended)
      (releases : R.releases ended) : Step R routes p .returned p.leave

/-- The events by which a process gets from one state to another. -/
inductive Steps (R : Runtime σ) (routes : Bool) (p : Process σ) :
    List Event → Process σ → Prop where
  | none : Steps R routes p [] p
  | more {trace : List Event} {q r : Process σ} {e : Event} (past : Steps R routes p trace q)
      (step : Step R routes q e r) : Steps R routes p (trace ++ [e]) r

end Process

end DeviceOnboard.Controller
