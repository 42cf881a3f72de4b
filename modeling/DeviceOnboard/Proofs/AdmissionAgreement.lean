import DeviceOnboard.Admission.Validation
import DeviceOnboard.Proofs.ApplyRuns

/-!
# Admission and reconciles agree

What the webhook admits the reconciles do not refuse, and what it denies they refuse with the
same cause. The only exception is the host of an onboarding server without owner addresses, which
is not known before its route is applied. Both sides are compared over all runs, whatever the
cluster answers.
-/
namespace DeviceOnboard.Reconcile

open DeviceOnboard.Admission DeviceOnboard.Cluster DeviceOnboard.Config DeviceOnboard.Kubernetes
open DeviceOnboard.Reconcile.Task DeviceOnboard.Server

/-- The call asks for no negative number of replicas. -/
def ScalesUp (q : Call) : Prop :=
  ∀ d ∈ deploymentOf q, ∃ spec n, d.spec = some spec ∧ spec.replicas = some n ∧ 0 ≤ n

theorem scalesUp_deployment {o : Owner} {ns : String} {replicas : Int32} {pod : PodSpec}
    (nonnegative : 0 ≤ replicas) : ScalesUp (.applyDeployment ns (o.deployment replicas pod)) := by
  intro d hd
  cases hd
  exact ⟨_, replicas, rfl, rfl, nonnegative⟩

theorem scalesUp_of_none {q : Call} (h : deploymentOf q = none) : ScalesUp q := by
  simp [ScalesUp, h]

/-- The error does not say that the description of a server has no configuration. -/
def Error.NotConfig (e : Error) : Prop := ∀ c, e ≠ config c

/-- The error does not say that a configuration could not be written. -/
def Error.NotEncoding (e : Error) : Prop := ∀ reason, e ≠ config (.encoding reason)

theorem Error.notConfig_cluster (e : Cluster.Error) : NotConfig (.cluster e) := by
  simp [NotConfig]

theorem Error.notEncoding_cluster (e : Cluster.Error) : NotEncoding (.cluster e) := by
  simp [NotEncoding]

theorem Error.notEncoding_ofConfig {e : Config.Error} (h : e.InServer) :
    NotEncoding (.ofConfig e) := by
  rw [h.ofConfig]
  rintro reason ⟨⟩
  exact h

theorem Error.notConfig_ofConfig {e : Config.Error} (h : e.concernsFile = true) :
    NotConfig (.ofConfig e) := by
  simp [NotConfig, ofConfig, h]

/-! ## Manufacturing servers -/

namespace Manufacturing

theorem admitted_iff {s : ManufacturingSpec} :
    validate (.manufacturing s) = .ok () ↔
      0 ≤ s.replicas ∧ ∃ c, ManufacturingConfig.ofSpec s = .ok c := by
  simp only [validate]
  by_cases negative : s.replicas < 0
  · simp [negative, Int32.not_le.mpr negative]
  · cases h : ManufacturingConfig.ofSpec s <;> simp [negative, Int32.not_lt.mp negative]

theorem denied_iff {s : ManufacturingSpec} {d : Denial} (nonnegative : 0 ≤ s.replicas) :
    validate (.manufacturing s) = .error d ↔
      ∃ e, ManufacturingConfig.ofSpec s = .error e ∧ d = .config e := by
  simp only [validate]
  rw [if_neg (Int32.not_lt.mpr nonnegative)]
  cases h : ManufacturingConfig.ofSpec s <;> simp [eq_comm]

/-- A server whose configuration is refused is left as it is. -/
theorem apply_refused {o : Owner} {routes : Bool} {s : ManufacturingSpec} {e : Config.Error}
    {log : Log} {r : Except Error Action} (refused : ManufacturingConfig.ofSpec s = .error e)
    (run : Runs (apply o routes s) log r) : log = [] ∧ r = .error (.config e) := by
  unfold apply at run
  rw [refused] at run
  obtain ⟨rfl, rfl⟩ := Dialogue.run_done_iff.mp run
  exact ⟨rfl, by rw [(manufacturing_inServer refused).ofConfig]⟩

end Manufacturing

/-! ## Onboarding servers -/

namespace Onboarding

theorem runs_routeHost_iff {o : Owner} {routes : Bool} {log : Log}
    {r : Except Error (Option String)} :
    Runs (routeHost o routes) log r ↔
      (routes = false ∧ log = [] ∧ r = .ok none) ∨
        (routes = true ∧ ∃ answer : Except Cluster.Error Route,
          log = [⟨routeCall o, answer⟩] ∧ r = (answer.map Route.host?).mapError .cluster) := by
  unfold routeHost
  cases routes
  · simpa using runs_pure_iff
  · simp only [if_true, reduceCtorEq, false_and, true_and, false_or]
    rw [runs_bind_iff]
    constructor
    · rintro (⟨route, before, after, h1, h2, rfl⟩ | ⟨e, h, rfl⟩)
      · obtain ⟨answer, rfl, found⟩ := (asks_applyRoute _ _).mp h1
        obtain ⟨rfl, rfl⟩ := runs_pure_iff.mp h2
        cases answer <;> cases found
        exact ⟨.ok route, rfl, rfl⟩
      · obtain ⟨answer, rfl, failed⟩ := (asks_applyRoute _ _).mp h
        cases answer <;> cases failed
        exact ⟨.error _, rfl, rfl⟩
    · rintro ⟨e | route, rfl, rfl⟩
      · exact .inr ⟨.cluster e, (asks_applyRoute _ _).mpr ⟨.error e, rfl, rfl⟩, rfl⟩
      · exact .inl ⟨route, _, [], (asks_applyRoute _ _).mpr ⟨.ok route, rfl, rfl⟩,
          runs_pure_iff.mpr ⟨rfl, rfl⟩, rfl⟩

/-- An error of the configuration ends a reconcile as soon as the host is known. -/
theorem config_error_iff {o : Owner} {routes : Bool} {s : OnboardingSpec} {log : Log}
    {e : Config.Error} :
    Runs (apply o routes s) log (.error (.config e)) ↔
      ∃ host, Runs (routeHost o routes) log (.ok host) ∧
        OnboardingConfig.ofSpec s host = .error e := by
  rw [apply_eq, runs_bind_iff]
  constructor
  · rintro (⟨host, before, after, h1, h2, rfl⟩ | ⟨e', h, he⟩)
    · rcases runs_bind_iff.mp h2 with ⟨config, _, rest, _, h3, _⟩ | ⟨e', h3, he⟩
      · have keeps : Keeps (fun _ => True) Error.NotConfig (applyRest o s config) :=
          applyRest_keeps (fun _ _ => trivial) Error.notConfig_cluster
            fun _ => Error.notConfig_ofConfig
        exact absurd rfl (keeps.errors h3 e)
      · cases he
        obtain ⟨rfl, refused⟩ := runs_checked_iff.mp h3
        cases hc : OnboardingConfig.ofSpec s host with
        | ok config =>
          rw [hc] at refused
          cases refused
        | error e' =>
          simp only [hc, Except.mapError, (onboarding_inServer hc).ofConfig] at refused
          cases refused
          exact ⟨host, by simpa using h1, hc⟩
    · cases he
      rcases runs_routeHost_iff.mp h with ⟨_, _, he⟩ | ⟨_, answer, _, he⟩
      · cases he
      · cases answer <;> cases he
  · rintro ⟨host, h, refused⟩
    refine .inl ⟨host, log, [], h, ?_, by simp⟩
    refine runs_bind_iff.mpr (.inr ⟨_, runs_checked_iff.mpr ⟨rfl, ?_⟩, rfl⟩)
    rw [refused]
    exact congrArg Except.error (onboarding_inServer refused).ofConfig.symm

theorem denied_iff {s : OnboardingSpec} {d : Denial} :
    validate (.onboarding s) = .error d ↔
      ∃ e, ownerEntries s.ownerAddresses = .error e ∧ d = .config e := by
  simp only [validate]
  cases h : ownerEntries s.ownerAddresses <;> simp [eq_comm]

/-- An admitted server fails for its configuration only when it has no owner addresses and its
route gives it no host. -/
theorem config_error_of_admitted {o : Owner} {routes : Bool} {s : OnboardingSpec} {log : Log}
    {e : Config.Error} (admitted : validate (.onboarding s) = .ok ())
    (run : Runs (apply o routes s) log (.error (.config e))) :
    e = .noOwnerAddresses ∧ s.ownerAddresses = [] ∧
      (routes = false ∨ ∃ route : Route, ⟨routeCall o, .ok route⟩ ∈ log ∧ route.host? = none) := by
  obtain ⟨host, found, refused⟩ := config_error_iff.mp run
  rcases onboarding_error_iff.mp refused with h | ⟨empty, none, rfl⟩
  · simp [validate, h] at admitted
  refine ⟨rfl, empty, ?_⟩
  rcases runs_routeHost_iff.mp found with ⟨off, _, _⟩ | ⟨_, answer, rfl, h⟩
  · exact .inl off
  cases answer with
  | error e => cases h
  | ok route =>
    cases h
    refine .inr ⟨route, List.mem_singleton_self _, ?_⟩
    simpa [Route.host?] using none

/-- A server that is denied fails with the same cause, unless its route cannot be applied, and
gets no other child. -/
theorem apply_refused {o : Owner} {routes : Bool} {s : OnboardingSpec} {log : Log}
    {r : Except Error Action} {e : Config.Error}
    (refused : ownerEntries s.ownerAddresses = .error e)
    (run : Runs (apply o routes s) log r) :
    ((∃ err, ⟨routeCall o, .error err⟩ ∈ log ∧ r = .error (.cluster err)) ∨
      r = .error (.config e)) ∧ ∀ entry ∈ log, entry.1 = routeCall o := by
  have refusedFor (host : Option String) : OnboardingConfig.ofSpec s host = .error e :=
    onboarding_error_iff.mpr (.inl refused)
  rw [apply_eq] at run
  rcases runs_bind_iff.mp run with ⟨host, before, after, found, rest, rfl⟩ | ⟨e', failed, rfl⟩
  · rw [refusedFor host] at rest
    obtain ⟨rfl, rfl⟩ := Dialogue.run_done_iff.mp rest
    rw [(onboarding_inServer (refusedFor host)).ofConfig, List.append_nil]
    refine ⟨.inr rfl, ?_⟩
    rcases runs_routeHost_iff.mp found with ⟨_, rfl, _⟩ | ⟨_, answer, rfl, _⟩ <;> simp
  · rcases runs_routeHost_iff.mp failed with ⟨_, _, h⟩ | ⟨_, answer, rfl, h⟩
    · cases h
    · cases answer <;> cases h
      exact ⟨.inl ⟨_, List.mem_singleton_self _, rfl⟩, by simp⟩

end Onboarding

/-! ## All servers -/

/-- No configuration that a reconcile builds is one that cannot be written. -/
theorem apply_notEncoding {o : Owner} {routes : Bool} {s : Spec} {log : Log} {e : Error}
    (run : Runs (apply o routes s) log (.error e)) : e.NotEncoding := by
  have keeps : Keeps (fun _ => True) Error.NotEncoding (apply o routes s) :=
    apply_keeps (fun _ _ => trivial) Error.notEncoding_cluster
      (fun _ => Error.notEncoding_ofConfig) fun _ h reason => Error.notConfig_ofConfig h _
  exact keeps.errors run

/-- For every description of a server and every run of its reconcile, whatever the cluster answers:

- an admitted manufacturing server is not refused, and its deployment asks for no negative number
  of replicas; if it is denied for its configuration, it fails with the same cause and without a
  call;
- an admitted onboarding server is refused only when it has neither owner addresses nor a host of
  its route; if it is denied, it fails with the same cause unless its route cannot be applied, and
  no other child is applied;
- a rendezvous server is never refused;
- no configuration is one that cannot be written.

Every source of answers leads to a run. -/
theorem admission_agrees (o : Owner) (routes : Bool) :
    (∀ s log r, Runs (Manufacturing.apply o routes s) log r →
      (validate (.manufacturing s) = .ok () →
        (∀ e, r ≠ .error (.config e)) ∧
          ∀ ns d a, ⟨.applyDeployment ns d, a⟩ ∈ log →
            ∃ spec n, d.spec = some spec ∧ spec.replicas = some n ∧ 0 ≤ n) ∧
      (∀ d, 0 ≤ s.replicas → validate (.manufacturing s) = .error d →
        ∃ e, d = .config e ∧ r = .error (.config e) ∧ log = [])) ∧
    (∀ s log r, Runs (Onboarding.apply o routes s) log r →
      (∀ e, validate (.onboarding s) = .ok () → r = .error (.config e) →
        e = .noOwnerAddresses ∧ s.ownerAddresses = [] ∧
          (routes = false ∨
            ∃ route : Route, ⟨Onboarding.routeCall o, .ok route⟩ ∈ log ∧ route.host? = none)) ∧
      (∀ d, validate (.onboarding s) = .error d → ∃ e, d = .config e ∧
        (r = .error (.config e) ∨
          ∃ err, ⟨Onboarding.routeCall o, .error err⟩ ∈ log ∧ r = .error (.cluster err)) ∧
        ∀ entry ∈ log, entry.1 = Onboarding.routeCall o)) ∧
    (∀ s log r, Runs (Rendezvous.apply o routes s) log r → ∀ e, r ≠ .error (.config e)) ∧
    (∀ s log r, Runs (apply o routes s) log r → ∀ reason,
      r ≠ .error (.config (.encoding reason))) ∧
    ∀ (s : Spec) (σ : Type) (answer : (q : Call) → σ → q.Answer × σ) (state : σ),
      ∃ log, Runs (apply o routes s) log ((apply o routes s).run.answered answer state).1 := by
  refine ⟨fun s log r run => ⟨fun admitted => ?_, fun d nonnegative denied => ?_⟩,
    fun s log r run => ⟨fun e admitted failed => ?_, fun d denied => ?_⟩,
    fun s log r run e failed => ?_, fun s log r run reason failed => ?_,
    fun s σ answer state => Dialogue.exists_run_answered answer _ state⟩
  · obtain ⟨nonnegative, config, valid⟩ := Manufacturing.admitted_iff.mp admitted
    have keeps : Keeps ScalesUp Error.NotConfig (Manufacturing.apply o routes s) :=
      Manufacturing.apply_keeps (fun _ _ => scalesUp_of_none) (scalesUp_deployment nonnegative)
        Error.notConfig_cluster fun e h => by simp [valid] at h
    refine ⟨fun e failed => ?_, fun ns d a member => keeps.calls run _ member d rfl⟩
    subst failed
    exact keeps.errors run e rfl
  · obtain ⟨e, refused, rfl⟩ := (Manufacturing.denied_iff nonnegative).mp denied
    obtain ⟨rfl, rfl⟩ := Manufacturing.apply_refused refused run
    exact ⟨e, rfl, rfl, rfl⟩
  · subst failed
    exact Onboarding.config_error_of_admitted admitted run
  · obtain ⟨e, refused, rfl⟩ := Onboarding.denied_iff.mp denied
    obtain ⟨outcome, calls⟩ := Onboarding.apply_refused refused run
    exact ⟨e, rfl, outcome.symm, calls⟩
  · have keeps : Keeps (fun _ => True) Error.NotConfig (Rendezvous.apply o routes s) :=
      Rendezvous.apply_keeps (fun _ _ => trivial) Error.notConfig_cluster
    subst failed
    exact keeps.errors run e rfl
  · subst failed
    exact apply_notEncoding run reason rfl

end DeviceOnboard.Reconcile
