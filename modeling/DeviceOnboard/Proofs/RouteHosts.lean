import DeviceOnboard.Proofs.AdmissionAgreement
import DeviceOnboard.Proofs.CycleRuns
import DeviceOnboard.Proofs.PlannedSteps

/-!
# The host of a route

A route has a host of its own and hosts that routers report, and any of them may be left open or be
empty. The route is reached under the first host that is set, and under none if that one is empty.
So a host that is not empty is found, except where an empty one stands before it; an onboarding
server without owner addresses is then refused although its route has a host.
-/
namespace DeviceOnboard.Kubernetes.Route

/-- The host of a route itself, then those of its routers in order. -/
def hosts (r : Route) : List (Option String) := r.spec.host :: r.ingressHosts

/-- The first host that is set and not empty. -/
def firstHost? (r : Route) : Option String := r.hosts.findSome? fun h => h.filter (· ≠ "")

/-- The first host that is set is empty, and a later one is not. -/
def Shadowed (r : Route) : Prop :=
  ∃ unset rest host, r.hosts = unset ++ some "" :: rest ∧ (∀ h ∈ unset, h = none) ∧
    some host ∈ rest ∧ host ≠ ""

theorem host?_eq (r : Route) : r.host? = (r.hosts.findSome? id).filter (· ≠ "") := by
  unfold host? hosts
  cases h : r.spec.host <;> simp

variable {r : Route} {host : String}

/-- There is no host just if every host is left open or empty. -/
theorem firstHost?_eq_none_iff : r.firstHost? = none ↔ ∀ h ∈ r.hosts, h = none ∨ h = some "" := by
  unfold firstHost?
  rw [List.findSome?_eq_none_iff]
  refine forall₂_congr fun h _ => ?_
  cases h <;> simp

theorem firstHost?_of_set (set : r.hosts.findSome? id = some host) (nonempty : host ≠ "") :
    r.firstHost? = some host := by
  obtain ⟨unset, h, rest, split, found, before⟩ := List.findSome?_eq_some_iff.mp set
  refine List.findSome?_eq_some_iff.mpr ⟨unset, h, rest, split, ?_, fun x member => ?_⟩
  · rw [show h = some host from found]
    simp [nonempty]
  · rw [show x = none from before x member]
    rfl

theorem shadowed_iff : r.Shadowed ↔ r.hosts.findSome? id = some "" ∧ r.firstHost? ≠ none := by
  rw [ne_eq, firstHost?_eq_none_iff]
  constructor
  · rintro ⟨unset, rest, host, split, before, later, nonempty⟩
    refine ⟨List.findSome?_eq_some_iff.mpr ⟨unset, _, rest, split, rfl, before⟩, fun all => ?_⟩
    have member : some host ∈ r.hosts := by simp [split, later]
    simpa [nonempty] using all _ member
  · rintro ⟨set, other⟩
    obtain ⟨unset, h, rest, split, rfl, before⟩ := List.findSome?_eq_some_iff.mp set
    push Not at other
    obtain ⟨x, member, isSet, nonempty⟩ := other
    obtain ⟨host, rfl⟩ := Option.ne_none_iff_exists'.mp isSet
    refine ⟨unset, rest, host, split, before, ?_, by simpa using nonempty⟩
    rw [split, List.mem_append, List.mem_cons] at member
    rcases member with early | same | late
    · exact absurd (before _ early) isSet
    · exact absurd same nonempty
    · exact late

/-- The host of a route is its first host that is not empty, unless an empty one stands before. -/
theorem host?_of_not_shadowed (clear : ¬ r.Shadowed) : r.host? = r.firstHost? := by
  rw [host?_eq]
  cases set : r.hosts.findSome? id with
  | none =>
    refine (firstHost?_eq_none_iff.mpr fun h member => .inl ?_).symm
    exact List.findSome?_eq_none_iff.mp set h member
  | some host =>
    by_cases empty : host = ""
    · subst empty
      have none : r.firstHost? = none := not_not.mp fun some => clear (shadowed_iff.mpr ⟨set, some⟩)
      simp [none]
    · simp [firstHost?_of_set set empty, empty]

theorem host?_of_shadowed (shadowed : r.Shadowed) : r.host? = none := by
  rw [host?_eq, (shadowed_iff.mp shadowed).1]
  rfl

theorem host?_eq_none_iff : r.host? = none ↔ r.firstHost? = none ∨ r.Shadowed := by
  by_cases shadowed : r.Shadowed
  · simp [host?_of_shadowed shadowed, shadowed]
  · simp [host?_of_not_shadowed shadowed, shadowed]

end DeviceOnboard.Kubernetes.Route

namespace DeviceOnboard.Reconcile.Onboarding

open DeviceOnboard.Cluster DeviceOnboard.Config DeviceOnboard.Kubernetes
open DeviceOnboard.Reconcile.Task DeviceOnboard.Server

variable {o : Owner} {s : OnboardingSpec} {rest : Log} {result : Except Error Action} {r : Route}

/-- Without owner addresses all depends on the host of the route that was applied. -/
theorem noOwnerAddresses_iff (empty : s.ownerAddresses = [])
    (run : Runs (apply o true s) (⟨routeCall o, .ok r⟩ :: rest) result) :
    result = .error (.config .noOwnerAddresses) ↔ r.host? = none := by
  constructor
  · rintro rfl
    obtain ⟨host, found, refused⟩ := config_error_iff.mp run
    rcases runs_routeHost_iff.mp found with ⟨off, _, _⟩ | ⟨_, answer, log, same⟩
    · cases off
    · obtain ⟨applied, -⟩ := List.cons.inj log
      cases applied
      cases same
      rcases onboarding_error_iff.mp refused with other | ⟨_, none, _⟩
      · rw [empty] at other
        cases other
      · simpa [Route.host?] using none
  · intro none
    have refused : OnboardingConfig.ofSpec s r.host? = .error .noOwnerAddresses :=
      onboarding_error_iff.mpr (.inr ⟨empty, by rw [none]; rfl, rfl⟩)
    obtain ⟨_, _, same, ⟨_, ends⟩ | ⟨_, failed, _⟩⟩ :=
      ends_call_iff.mp ((performs o true s _ _).mp run)
    · cases same
      have planned : planFor o s r.host? (mapsIn (⟨routeCall o, .ok r⟩ :: rest)) =
          .check .server (some .noOwnerAddresses) :: (planFor o s r.host? (mapsIn rest)).tail := by
        unfold planFor
        rw [refused]
        rfl
      exact (ends_refused_check_iff.mp (planned ▸ ends)).2
    · cases same
      cases failed

/-- A route is reached under its first host that is not empty, unless an empty one stands before it,
and under no host just if all its hosts are open or empty, or an empty one stands before the others.
In these two cases, and in no other, an onboarding server without owner addresses is refused once
its route is applied, whatever else its description says. -/
theorem host_found_unless_shadowed (r : Route) :
    (r.host? = r.firstHost? ↔ ¬ r.Shadowed) ∧
    (r.host? = none ↔ (∀ h ∈ r.hosts, h = none ∨ h = some "") ∨ r.Shadowed) ∧
    ∀ (o : Owner) (s : OnboardingSpec) (rest : Log) (result : Except Error Action),
      s.ownerAddresses = [] → Runs (apply o true s) (⟨routeCall o, .ok r⟩ :: rest) result →
        (result = .error (.config .noOwnerAddresses) ↔
          (∀ h ∈ r.hosts, h = none ∨ h = some "") ∨ r.Shadowed) := by
  have missing : r.host? = none ↔ (∀ h ∈ r.hosts, h = none ∨ h = some "") ∨ r.Shadowed := by
    rw [← Route.firstHost?_eq_none_iff]
    exact Route.host?_eq_none_iff
  refine ⟨⟨fun same shadowed => ?_, Route.host?_of_not_shadowed⟩, missing,
    fun o s rest result empty run => (noOwnerAddresses_iff empty run).trans missing⟩
  rw [Route.host?_of_shadowed shadowed] at same
  exact (Route.shadowed_iff.mp shadowed).2 same.symm

/-- A route whose own host is empty, and which a router has admitted under a host. -/
def admittedRoute : Route where
  metadata := { name := some "fdo" }
  spec := ⟨some "", ⟨"Service", "fdo"⟩, none, none⟩
  status := some ⟨[⟨some "fdo.apps.example.com", some "default"⟩]⟩

/-- An onboarding server without owner addresses. -/
def unaddressed : OnboardingSpec := { onboardingAt "" with ownerAddresses := [] }

theorem runs_unaddressed : Runs (apply ⟨"fdo", "devices", .onboarding, none⟩ true unaddressed)
    [⟨routeCall ⟨"fdo", "devices", .onboarding, none⟩, .ok admittedRoute⟩]
    (.error (.config .noOwnerAddresses)) := by
  have hidden : admittedRoute.host? = none := by decide
  refine config_error_iff.mpr ⟨none, ?_, rfl⟩
  exact runs_routeHost_iff.mpr (.inr ⟨rfl, .ok admittedRoute, rfl, by rw [← hidden]; rfl⟩)

/-- The refusal of a server without owner addresses shows that the host of its route is hidden. -/
theorem refusal_shows_shadowed :
    Runs (apply ⟨"fdo", "devices", .onboarding, none⟩ true unaddressed)
      [⟨routeCall ⟨"fdo", "devices", .onboarding, none⟩, .ok admittedRoute⟩]
      (.error (.config .noOwnerAddresses)) ∧ admittedRoute.Shadowed := by
  refine ⟨runs_unaddressed, ?_⟩
  obtain ⟨-, -, refused⟩ := host_found_unless_shadowed admittedRoute
  rcases (refused _ unaddressed _ _ rfl runs_unaddressed).mp rfl with unset | shadowed
  · have found : some "fdo.apps.example.com" ∈ admittedRoute.hosts := by decide
    simpa using unset _ found
  · exact shadowed

/-- The empty host of a route hides the host under which it was admitted, and an onboarding server
without owner addresses is refused. -/
theorem empty_host_hides_admitted : admittedRoute.firstHost? = some "fdo.apps.example.com" ∧
    admittedRoute.host? = none ∧
    ∃ (o : Owner) (s : OnboardingSpec), s.ownerAddresses = [] ∧
      Runs (apply o true s) [⟨routeCall o, .ok admittedRoute⟩]
        (.error (.config .noOwnerAddresses)) :=
  ⟨by decide, by decide, ⟨"fdo", "devices", .onboarding, none⟩, unaddressed, rfl, runs_unaddressed⟩

end DeviceOnboard.Reconcile.Onboarding
