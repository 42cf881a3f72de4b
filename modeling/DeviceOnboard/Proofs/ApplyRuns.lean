import DeviceOnboard.Proofs.ConfigErrors
import DeviceOnboard.Proofs.TaskRuns
import DeviceOnboard.Reconcile.Cycle

/-!
# What applying the objects of a server keeps to

One lemma for each kind of server says which properties of calls and of errors hold in all runs:
those of the calls that the kind makes, and those of the errors of its configuration.
-/
namespace DeviceOnboard.Reconcile

open DeviceOnboard.Cluster DeviceOnboard.Config DeviceOnboard.Kubernetes
open DeviceOnboard.Reconcile.Task DeviceOnboard.Server

/-- The call reports on a server and leaves its objects alone. -/
def reports : Call → Bool
  | .patchStatus .. | .publishWarning .. => true
  | _ => false

/-- The deployment that a call applies. -/
def deploymentOf : Call → Option Deployment
  | .applyDeployment _ d => some d
  | _ => none

variable {P : Call → Prop} {E : Error → Prop} {o : Owner} {routes : Bool}

theorem Manufacturing.apply_keeps {s : ManufacturingSpec}
    (other : ∀ q, reports q = false → deploymentOf q = none → P q)
    (deployed : P (.applyDeployment o.namespace (deployment o s)))
    (failed : ∀ e, E (.cluster e))
    (refused : ∀ e, ManufacturingConfig.ofSpec s = .error e → E (.ofConfig e)) :
    Keeps P E (apply o routes s) := by
  unfold apply
  refine keeps_bind (keeps_checked refused) fun config => ?_
  refine keeps_optional routes (keeps_asks (asks_applyRoute _ _) (other _ rfl rfl) failed) ?_
  refine keeps_bind (keeps_asks (asks_applyConfigMap _ _) (other _ rfl rfl) failed) fun _ => ?_
  refine keeps_bind (keeps_asks (asks_ensureClaim _ _) (other _ rfl rfl) failed) fun _ => ?_
  refine keeps_bind (keeps_asks (asks_applyDeployment _ _) deployed failed) fun _ => ?_
  refine keeps_bind (keeps_asks (asks_applyService _ _) (other _ rfl rfl) failed) fun _ => ?_
  exact keeps_pure _

namespace Onboarding

/-- The call that gives an onboarding server its host. -/
def routeCall (o : Owner) : Call :=
  .applyRoute o.namespace (o.route Layout.onboarding.port none)

/-- The part of a reconcile that has the configuration. -/
def applyRest (o : Owner) (s : OnboardingSpec) (config : OnboardingConfig) : Task Action := do
  let _ ← Task.applyConfigMap o.namespace
    (o.configMap (configMapName o.name) Layout.onboarding.fileName config.text)
  let maps ← Task.listConfigMaps o.namespace (fileSelector o.name)
  let files ← Task.checked (filesOf maps)
  let info := ServiceInfoConfig.ofSpec s.serviceInfo files
  let _ ← Task.applyConfigMap o.namespace
    (o.configMap (serviceInfoMapName o.name) Layout.serviceInfo.fileName info.text)
  Task.ensureClaim o.namespace (voucherClaim o.namespace none)
  let _ ← Task.applyDeployment o.namespace (deployment o s files)
  let _ ← Task.applyService o.namespace (o.service Layout.onboarding.port)
  return .requeue resyncSeconds

theorem apply_eq (o : Owner) (routes : Bool) (s : OnboardingSpec) :
    apply o routes s = routeHost o routes >>= fun host =>
      Task.checked (OnboardingConfig.ofSpec s host) >>= applyRest o s :=
  rfl

theorem applyRest_keeps {s : OnboardingSpec} {config : OnboardingConfig}
    (call : ∀ q, reports q = false → P q) (failed : ∀ e, E (.cluster e))
    (file : ∀ e : Config.Error, e.concernsFile = true → E (.ofConfig e)) :
    Keeps P E (applyRest o s config) := by
  unfold applyRest
  refine keeps_bind (keeps_asks (asks_applyConfigMap _ _) (call _ rfl) failed) fun _ => ?_
  refine keeps_bind (keeps_asks (asks_listConfigMaps _ _) (call _ rfl) failed) fun maps => ?_
  refine keeps_bind (keeps_checked fun e h => file e (filesOf_concernsFile h)) fun files => ?_
  refine keeps_bind (keeps_asks (asks_applyConfigMap _ _) (call _ rfl) failed) fun _ => ?_
  refine keeps_bind (keeps_asks (asks_ensureClaim _ _) (call _ rfl) failed) fun _ => ?_
  refine keeps_bind (keeps_asks (asks_applyDeployment _ _) (call _ rfl) failed) fun _ => ?_
  refine keeps_bind (keeps_asks (asks_applyService _ _) (call _ rfl) failed) fun _ => ?_
  exact keeps_pure _

theorem apply_keeps {s : OnboardingSpec} (call : ∀ q, reports q = false → P q)
    (failed : ∀ e, E (.cluster e))
    (refused : ∀ host e, OnboardingConfig.ofSpec s host = .error e → E (.ofConfig e))
    (file : ∀ e : Config.Error, e.concernsFile = true → E (.ofConfig e)) :
    Keeps P E (apply o routes s) := by
  rw [apply_eq]
  refine keeps_bind ?_ fun host => ?_
  · cases routes
    · exact keeps_pure none
    · exact keeps_bind (keeps_asks (asks_applyRoute _ _) (call _ rfl) failed)
        fun _ => keeps_pure _
  · exact keeps_bind (keeps_checked (refused host)) fun _ => applyRest_keeps call failed file

end Onboarding

theorem Rendezvous.apply_keeps {s : RendezvousSpec} (call : ∀ q, reports q = false → P q)
    (failed : ∀ e, E (.cluster e)) : Keeps P E (apply o routes s) := by
  unfold apply
  refine keeps_bind (keeps_asks (asks_applyConfigMap _ _) (call _ rfl) failed) fun _ => ?_
  refine keeps_bind (keeps_asks (asks_applyDeployment _ _) (call _ rfl) failed) fun _ => ?_
  refine keeps_bind (keeps_asks (asks_applyService _ _) (call _ rfl) failed) fun _ => ?_
  exact keeps_optional routes (keeps_asks (asks_applyRoute _ _) (call _ rfl) failed)
    (keeps_pure _)

/-- The errors of a reconcile are those of its calls, of its configuration and of the files. -/
theorem apply_keeps {s : Spec} (call : ∀ q, reports q = false → P q)
    (failed : ∀ e, E (.cluster e))
    (refused : ∀ e : Config.Error, e.InServer → E (.ofConfig e))
    (file : ∀ e : Config.Error, e.concernsFile = true → E (.ofConfig e)) :
    Keeps P E (apply o routes s) := by
  cases s with
  | manufacturing s =>
    exact Manufacturing.apply_keeps (fun q h _ => call q h) (call _ rfl) failed
      fun e h => refused e (manufacturing_inServer h)
  | onboarding s =>
    exact Onboarding.apply_keeps call failed (fun _ e h => refused e (onboarding_inServer h)) file
  | rendezvous s => exact Rendezvous.apply_keeps call failed

end DeviceOnboard.Reconcile
