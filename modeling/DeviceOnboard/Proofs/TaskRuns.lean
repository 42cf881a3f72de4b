import DeviceOnboard.Proofs.DialogueRuns
import DeviceOnboard.Reconcile.Task
import Mathlib.Data.List.Infix

/-!
# Runs of a task

How a task runs follows from how its parts run: a failed call or check ends it, and what comes
after a part runs only if the part has succeeded. `Follows` says of a task what its runs show to a
view of the calls: a first part of a plan, and the whole plan if the task succeeds.
-/
namespace DeviceOnboard.Reconcile.Task

open DeviceOnboard.Cluster DeviceOnboard.Dialogue DeviceOnboard.Kubernetes

variable {α β γ : Type}

abbrev Log := Dialogue.Log Call Call.Answer

abbrev Runs (t : Task α) (log : Log) (r : Except Error α) : Prop := Run t.run log r

/-! ## The parts of a run -/

theorem runs_pure_iff {a : α} {log : Log} {r : Except Error α} :
    Runs (pure a) log r ↔ log = [] ∧ r = .ok a :=
  run_done_iff

theorem runs_bind_iff {t : Task α} {f : α → Task β} {log : Log} {r : Except Error β} :
    Runs (t >>= f) log r ↔
      (∃ a before after, Runs t before (.ok a) ∧ Runs (f a) after r ∧ log = before ++ after) ∨
        ∃ e, Runs t log (.error e) ∧ r = .error e := by
  unfold Runs
  rw [ExceptT.run_bind]
  show Run (Dialogue.bind _ _) log r ↔ _
  rw [run_bind_iff]
  constructor
  · rintro ⟨e | a, before, after, first, second, rfl⟩
    · obtain ⟨rfl, rfl⟩ := run_done_iff.mp second
      exact .inr ⟨e, by simpa using first, rfl⟩
    · exact .inl ⟨a, before, after, first, second, rfl⟩
  · rintro (⟨a, before, after, first, second, rfl⟩ | ⟨e, first, rfl⟩)
    · exact ⟨.ok a, before, after, first, second, rfl⟩
    · exact ⟨.error e, log, [], first, .done _, by simp⟩

theorem runs_checked_iff {x : Except Config.Error α} {log : Log} {r : Except Error α} :
    Runs (checked x) log r ↔ log = [] ∧ r = x.mapError .ofConfig := by
  cases x <;> exact run_done_iff

theorem runs_attempt_iff {d : Cluster.Dialogue (Except Cluster.Error α)} {log : Log}
    {r : Except Error α} :
    Runs (attempt d) log r ↔ ∃ answer, Run d log answer ∧ r = answer.mapError .cluster := by
  unfold Runs attempt
  show Run (Dialogue.bind _ _) log r ↔ _
  rw [run_bind_iff]
  constructor
  · rintro ⟨_ | a, before, after, first, second, rfl⟩ <;>
    · obtain ⟨rfl, rfl⟩ := run_done_iff.mp second
      exact ⟨_, by simpa using first, rfl⟩
  · rintro ⟨_ | a, first, rfl⟩ <;>
    · exact ⟨_, log, [], first, .done _, by simp⟩

/-- The task makes just one call, and ends with its answer. -/
def Asks (q : Call) (answer : Except Cluster.Error α → q.Answer) (t : Task α) : Prop :=
  ∀ {log : Log} {r : Except Error α},
    Runs t log r ↔ ∃ a, log = [⟨q, answer a⟩] ∧ r = a.mapError .cluster

theorem asks_attempt {q : Call} {answer : Except Cluster.Error α → q.Answer}
    {d : Cluster.Dialogue (Except Cluster.Error α)}
    (once : ∀ {log a}, Run d log a ↔ log = [⟨q, answer a⟩]) : Asks q answer (attempt d) :=
  runs_attempt_iff.trans (exists_congr fun _ => and_congr_left' once)

theorem asks_applyConfigMap (ns : String) (m : ConfigMap) :
    Asks (.applyConfigMap ns m) id (applyConfigMap ns m) :=
  asks_attempt run_question_iff

theorem asks_applyDeployment (ns : String) (d : Deployment) :
    Asks (.applyDeployment ns d) id (applyDeployment ns d) :=
  asks_attempt run_question_iff

theorem asks_applyService (ns : String) (s : Service) :
    Asks (.applyService ns s) id (applyService ns s) :=
  asks_attempt run_question_iff

theorem asks_applyRoute (ns : String) (r : Route) :
    Asks (.applyRoute ns r) id (applyRoute ns r) :=
  asks_attempt run_question_iff

theorem asks_ensureClaim (ns : String) (c : VolumeClaim) :
    Asks (.ensureClaim ns c) id (ensureClaim ns c) :=
  asks_attempt run_question_iff

theorem asks_listConfigMaps (ns selector : String) :
    Asks (.listConfigMaps ns selector) id (listConfigMaps ns selector) :=
  asks_attempt run_question_iff

/-! ## Plans -/

/-- What a view shows of the calls of a log. -/
def seen (view : Call → Option γ) (log : Log) : List γ := log.filterMap fun entry => view entry.1

theorem seen_append (view : Call → Option γ) (log log' : Log) :
    seen view (log ++ log') = seen view log ++ seen view log' := by
  simp [seen]

/-- Every run shows a first part of the plan, and every run that succeeds shows all of it. -/
structure Follows (view : Call → Option γ) (plan : List γ) (t : Task α) : Prop where
  part : ∀ {log r}, Runs t log r → seen view log <+: plan
  whole : ∀ {log a}, Runs t log (.ok a) → seen view log = plan

variable {view : Call → Option γ} {plan plan' : List γ}

theorem follows_pure (a : α) : Follows view [] (pure a : Task α) where
  part h := by
    obtain ⟨rfl, _⟩ := runs_pure_iff.mp h
    exact List.prefix_rfl
  whole h := by
    obtain ⟨rfl, _⟩ := runs_pure_iff.mp h
    rfl

theorem follows_checked (x : Except Config.Error α) : Follows view [] (checked x) where
  part h := by
    obtain ⟨rfl, _⟩ := runs_checked_iff.mp h
    exact List.prefix_rfl
  whole h := by
    obtain ⟨rfl, _⟩ := runs_checked_iff.mp h
    rfl

theorem follows_asks {q : Call} {answer : Except Cluster.Error α → q.Answer} {t : Task α}
    (asks : Asks q answer t) (shows : (view q).toList = plan) : Follows view plan t where
  part h := by
    obtain ⟨a, rfl, _⟩ := asks.mp h
    rw [← shows]
    cases hq : view q <;> simp [seen, hq]
  whole h := by
    obtain ⟨a, rfl, _⟩ := asks.mp h
    rw [← shows]
    cases hq : view q <;> simp [seen, hq]

theorem follows_bind {t : Task α} {f : α → Task β} (first : Follows view plan t)
    (next : ∀ a, Follows view plan' (f a)) : Follows view (plan ++ plan') (t >>= f) where
  part h := by
    rcases runs_bind_iff.mp h with ⟨a, before, after, h1, h2, rfl⟩ | ⟨e, h1, rfl⟩
    · rw [seen_append, first.whole h1]
      exact (List.prefix_append_right_inj plan).mpr ((next a).part h2)
    · exact (first.part h1).trans (List.prefix_append plan plan')
  whole h := by
    rcases runs_bind_iff.mp h with ⟨a, before, after, h1, h2, rfl⟩ | ⟨e, h1, he⟩
    · rw [seen_append, first.whole h1, (next a).whole h2]
    · cases he

/-- A part that the view does not show leaves the plan as it is. -/
theorem follows_skip {t : Task α} {f : α → Task β} (first : Follows view [] t)
    (next : ∀ a, Follows view plan (f a)) : Follows view plan (t >>= f) :=
  follows_bind first next

theorem follows_step {x : γ} {t : Task α} {f : α → Task β} (first : Follows view [x] t)
    (next : ∀ a, Follows view plan (f a)) : Follows view (x :: plan) (t >>= f) :=
  follows_bind first next

/-- A task that is left out under a condition is left out of the plan as well. -/
theorem follows_optional {t : Task α} {rest : Task β} (c : Bool) (first : Follows view plan t)
    (next : Follows view plan' rest) :
    Follows view ((if c then plan else []) ++ plan')
      (if c then t >>= fun _ => rest else rest) := by
  cases c
  · exact next
  · exact follows_bind first fun _ => next

/-! ## Invariants -/

/-- Every call of a run has one property, and an error that ends it another. -/
structure Keeps (P : Call → Prop) (E : Error → Prop) (t : Task α) : Prop where
  calls : ∀ {log r}, Runs t log r → ∀ entry ∈ log, P entry.1
  errors : ∀ {log e}, Runs t log (.error e) → E e

variable {P : Call → Prop} {E : Error → Prop}

theorem keeps_pure (a : α) : Keeps P E (pure a : Task α) where
  calls h := by
    obtain ⟨rfl, _⟩ := runs_pure_iff.mp h
    simp
  errors h := by
    obtain ⟨_, h⟩ := runs_pure_iff.mp h
    cases h

theorem keeps_checked {x : Except Config.Error α} (h : ∀ e, x = .error e → E (.ofConfig e)) :
    Keeps P E (checked x) where
  calls run := by
    obtain ⟨rfl, _⟩ := runs_checked_iff.mp run
    simp
  errors run := by
    obtain ⟨_, he⟩ := runs_checked_iff.mp run
    cases x with
    | ok a => cases he
    | error e =>
      cases he
      exact h e rfl

theorem keeps_asks {q : Call} {answer : Except Cluster.Error α → q.Answer} {t : Task α}
    (asks : Asks q answer t) (call : P q) (h : ∀ e, E (.cluster e)) : Keeps P E t where
  calls run := by
    obtain ⟨a, rfl, _⟩ := asks.mp run
    simpa using call
  errors run := by
    obtain ⟨a, _, he⟩ := asks.mp run
    cases a with
    | ok a => cases he
    | error e =>
      cases he
      exact h e

theorem keeps_bind {t : Task α} {f : α → Task β} (first : Keeps P E t)
    (next : ∀ a, Keeps P E (f a)) : Keeps P E (t >>= f) where
  calls h := by
    rcases runs_bind_iff.mp h with ⟨a, before, after, h1, h2, rfl⟩ | ⟨e, h1, rfl⟩
    · intro entry member
      rcases List.mem_append.mp member with member | member
      · exact first.calls h1 entry member
      · exact (next a).calls h2 entry member
    · exact first.calls h1
  errors h := by
    rcases runs_bind_iff.mp h with ⟨a, before, after, _, h2, _⟩ | ⟨e, h1, he⟩
    · exact (next a).errors h2
    · cases he
      exact first.errors h1

theorem keeps_optional {t : Task α} {rest : Task β} (c : Bool) (first : Keeps P E t)
    (next : Keeps P E rest) : Keeps P E (if c then t >>= fun _ => rest else rest) := by
  cases c
  · exact next
  · exact keeps_bind first fun _ => next

end DeviceOnboard.Reconcile.Task
