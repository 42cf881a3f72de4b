import DeviceOnboard.Proofs.BuiltConfigurations
import DeviceOnboard.Reconcile.Onboarding

/-!
# Which errors a configuration can have

A description of a server is refused for a cause that lies in the server, a configuration map with
a file for a cause that lies in the file. No cause is that a configuration could not be written.
-/
namespace DeviceOnboard.Config

open DeviceOnboard.Server

/-- The cause lies in the description of a server. -/
def Error.InServer : Error → Prop
  | incompleteFile _ | missingFileData .. | encoding _ => False
  | _ => True

theorem Error.InServer.ofConfig {e : Error} (h : e.InServer) :
    Reconcile.Error.ofConfig e = .config e := by
  cases e <;> first | rfl | exact h.elim

theorem resolves_inServer {target : String} {dns ip : Option String} {e : Error}
    (h : HostAddress.Resolves target dns ip (.error e)) : e.InServer := by
  cases h <;> trivial

theorem manufacturing_inServer {s : ManufacturingSpec} {e : Error}
    (h : ManufacturingConfig.ofSpec s = .error e) : e.InServer := by
  cases ManufacturingConfig.ofSpec_eq_iff.mp h with
  | noServers => trivial
  | noStorage => trivial
  | badServer first =>
    obtain ⟨server, -, refused⟩ := first.exists_refused
    cases refused with
    | refused fields => exact resolves_inServer fields

theorem addresses_inServer {addresses : List OwnerAddress} {e : Error}
    (h : Collects ReadsAddress addresses (.error e)) : e.InServer := by
  obtain ⟨address, -, refused⟩ := h.exists_refused
  cases refused with
  | empty => trivial
  | refused first =>
    obtain ⟨host, -, fields⟩ := first.exists_refused
    exact resolves_inServer fields

/-- The host of the route stands in for owner addresses only when there are none. -/
theorem onboarding_error_iff {s : OnboardingSpec} {host : Option String} {e : Error} :
    OnboardingConfig.ofSpec s host = .error e ↔
      ownerEntries s.ownerAddresses = .error e ∨
        s.ownerAddresses = [] ∧ host.filter (· ≠ "") = none ∧ e = .noOwnerAddresses := by
  rw [OnboardingConfig.ofSpec_eq_iff, ownerEntries_eq_iff, filter_host_eq_none_iff]
  constructor
  · intro h
    cases h with
    | nowhere none unset => exact .inr ⟨none, unset, rfl⟩
    | refused first => exact .inl first
  · rintro (first | ⟨none, unset, rfl⟩)
    · exact .refused first
    · exact .nowhere none unset

theorem onboarding_inServer {s : OnboardingSpec} {host : Option String} {e : Error}
    (h : OnboardingConfig.ofSpec s host = .error e) : e.InServer := by
  cases OnboardingConfig.ofSpec_eq_iff.mp h with
  | nowhere => trivial
  | refused first => exact addresses_inServer first

theorem filesOf_concernsFile {maps : List Kubernetes.ConfigMap} {e : Error}
    (h : Reconcile.Onboarding.filesOf maps = .error e) : e.concernsFile = true := by
  obtain ⟨map, _, hmap⟩ := mapM_error (map_error h)
  unfold Reconcile.Onboarding.fileOf DeviceFile.ofConfigMap at hmap
  split at hmap
  · split at hmap <;> cases hmap
    rfl
  · cases hmap
    rfl

end DeviceOnboard.Config
