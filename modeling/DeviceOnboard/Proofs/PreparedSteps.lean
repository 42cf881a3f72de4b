import DeviceOnboard.Proofs.DeviceFiles
import DeviceOnboard.Proofs.PlannedSteps

/-!
# Before the deployment

What has passed before a server's deployment is applied: the checks of its configuration, the list
of files for devices, and the calls for the configuration maps and the claim. When a run comes to
the deployment, all of it is there.
-/
namespace DeviceOnboard.Reconcile

open DeviceOnboard.Cluster DeviceOnboard.Config DeviceOnboard.Kubernetes
open DeviceOnboard.Reconcile.Onboarding (filesOf mapNames)
open DeviceOnboard.Reconcile.Task DeviceOnboard.Server

/-! ## Steps that have passed -/

section

variable {steps : List Step} {log : Log}

/-- A call of steps that have passed was made, and has succeeded. -/
theorem Passed.made (passed : Passed steps log) {α : Type} {q : Call}
    {answer : Except Cluster.Error α → q.Answer} (answers : Answers q answer)
    (planned : .call q ∈ steps) : ∃ a, ⟨q, answer (.ok a)⟩ ∈ log := by
  induction passed with
  | nil => cases planned
  | cons first rest ih =>
    rcases List.mem_cons.mp planned with rfl | later
    · cases first with
      | @call entry ok =>
        obtain ⟨x, given⟩ := answers.onto entry.2
        have found := answers.failure x
        rw [given, ok] at found
        cases x with
        | ok a => exact ⟨a, by simp [given]⟩
        | error e => cases found
    · obtain ⟨a, member⟩ := ih later
      exact ⟨a, List.mem_append_right _ member⟩

theorem Passed.planned (passed : Passed steps log) :
    ∀ entry ∈ log, .call entry.1 ∈ steps := by
  induction passed with
  | nil => simp
  | cons first rest ih =>
    refine List.forall_mem_append.mpr
      ⟨?_, fun entry member => List.mem_cons_of_mem _ (ih entry member)⟩
    cases first with
    | check => simp
    | call ok => simp

/-- What was checked by steps that have passed was not refused. -/
theorem Passed.accepted (passed : Passed steps log) {subject : Subject}
    {refusal : Option Config.Error} (planned : .check subject refusal ∈ steps) :
    refusal = none := by
  induction passed with
  | nil => cases planned
  | cons first rest ih =>
    rcases List.mem_cons.mp planned with rfl | later
    · cases first
      rfl
    · exact ih later

end

/-! ## The steps up to the deployment -/

/-- The step applies a deployment. -/
def deploys : Step → Bool
  | .call (.applyDeployment ..) => true
  | _ => false

/-- The deployment of a server, with files for devices. -/
def deploymentFor (o : Owner) (files : List DeviceFile) : Spec → Deployment
  | .manufacturing s => Manufacturing.deployment o s
  | .onboarding s => Onboarding.deployment o s files
  | .rendezvous s => Rendezvous.deployment o s

/-- The files for devices, or none if they cannot be read. -/
def filesIn (maps : List ConfigMap) : List DeviceFile := (filesOf maps).toOption.getD []

/-- The steps of a plan up to the deployment. -/
def preparation (o : Owner) (routes : Bool) (log : Log) (s : Spec) : List Step :=
  (planOf o routes log s).takeWhile fun step => !deploys step

theorem plan_split (o : Owner) (routes : Bool) (log : Log) (s : Spec) :
    ∃ rest, planOf o routes log s = preparation o routes log s ++
        .call (.applyDeployment o.namespace (deploymentFor o (filesIn (mapsIn log)) s)) :: rest ∧
      (∀ step ∈ preparation o routes log s, deploys step = false) ∧
      ∀ step ∈ rest, deploys step = false := by
  cases s <;> cases routes <;>
    exact ⟨_, rfl, fun step member => by simpa using List.mem_takeWhile_imp member,
      by simp [deploys]⟩

variable {o : Owner} {routes : Bool} {s : Spec} {log before after : Log} {ns : String}
  {d : Deployment} {answer : Except Cluster.Error Deployment} {r : Except Error Action}

/-- What was done before a deployment is what its plan prepares. -/
theorem prepared (run : Runs (apply o routes s) log r)
    (made : log = before ++ ⟨.applyDeployment ns d, answer⟩ :: after) :
    Passed (preparation o routes log s) before ∧ ns = o.namespace ∧
      d = deploymentFor o (filesIn (mapsIn log)) s := by
  have ends : Ends (onSuccess s) (planOf o routes log s) log r :=
    (apply_performs o routes s log r).mp run
  obtain ⟨front, back, plan, passed⟩ := ends.passed_before made
  obtain ⟨rest, split, first, last⟩ := plan_split o routes log s
  have deployment : deploys (.call (.applyDeployment ns d)) = true := rfl
  have sides := (List.append_cons_inj_of_notMem
    (fun member => by simp [first _ member] at deployment)
    (fun member => by simp [last _ member] at deployment)).mp (split.symm.trans plan)
  obtain ⟨rfl, same, rfl⟩ := sides
  cases same
  exact ⟨passed, rfl, rfl⟩

/-- The maps that a log tells of are those of its first part, if they were listed there. -/
theorem mapsIn_append {selector : String} {maps : List ConfigMap}
    (listed :
      ⟨.listConfigMaps ns selector, (.ok maps : Except Cluster.Error (List ConfigMap))⟩ ∈ before)
    (rest : Log) : mapsIn (before ++ rest) = mapsIn before := by
  induction before with
  | nil => cases listed
  | cons entry before ih =>
    obtain ⟨q, a⟩ := entry
    cases q with
    | listConfigMaps ns' selector' =>
      cases (a : Except Cluster.Error (List ConfigMap)) with
      | ok => rfl
      | error =>
        exact ih ((List.mem_cons.mp listed).resolve_left fun same => by cases same)
    | _ => exact ih ((List.mem_cons.mp listed).resolve_left fun same => by cases same)

theorem preparation_onboarding (s : OnboardingSpec) :
    preparation o routes log (.onboarding s) =
      (if routes then [.call (Onboarding.routeCall o)] else []) ++
        (Onboarding.planFor o s (if routes then hostIn log else none) (mapsIn log)).take 6 := by
  cases routes <;> rfl

/-! ## What has been accepted -/

theorem ok_of_accepted {α : Type} {x : Except Config.Error α} (accepted : errorOf? x = none) :
    ∃ a, x = .ok a := by
  cases x with
  | ok a => exact ⟨a, rfl⟩
  | error e => cases accepted

theorem accepted_manufacturing {s : ManufacturingSpec}
    (passed : Passed (preparation o routes log (.manufacturing s)) before) :
    ∃ c, ManufacturingConfig.ofSpec s = .ok c := by
  have planned : .check .server (errorOf? (ManufacturingConfig.ofSpec s)) ∈
      preparation o routes log (.manufacturing s) := List.mem_cons_self
  exact ok_of_accepted (passed.accepted planned)

theorem accepted_onboarding {s : OnboardingSpec}
    (passed : Passed (preparation o routes log (.onboarding s)) before) :
    (∃ c, OnboardingConfig.ofSpec s (if routes then hostIn log else none) = .ok c) ∧
      ∃ files, filesOf (mapsIn log) = .ok files := by
  have server : .check .server
      (errorOf? (OnboardingConfig.ofSpec s (if routes then hostIn log else none))) ∈
        preparation o routes log (.onboarding s) := by
    simp [preparation_onboarding, Onboarding.planFor]
  have files : .check .files (errorOf? (filesOf (mapsIn log))) ∈
      preparation o routes log (.onboarding s) := by
    simp [preparation_onboarding, Onboarding.planFor]
  exact ⟨ok_of_accepted (passed.accepted server), ok_of_accepted (passed.accepted files)⟩

/-- The maps with files are listed before the deployment. -/
theorem mapsIn_prepared {s : OnboardingSpec}
    (passed : Passed (preparation o routes log (.onboarding s)) before)
    (made : log = before ++ after) : mapsIn log = mapsIn before := by
  have planned : .call (.listConfigMaps o.namespace (Onboarding.fileSelector o.name)) ∈
      preparation o routes log (.onboarding s) := by
    simp [preparation_onboarding, Onboarding.planFor]
  obtain ⟨maps, member⟩ := passed.made (answers_listConfigMaps _ _) planned
  rw [made]
  exact mapsIn_append member after

theorem claims_vouchers (o : Owner) (routes : Bool) (log : Log) {s : Spec}
    (kept : s.kind ≠ .rendezvous) : ∃ c : VolumeClaim,
    c.metadata.nameOrStem = MountedVolume.voucherClaimName ∧
      .call (.ensureClaim o.namespace c) ∈ preparation o routes log s := by
  cases s with
  | manufacturing s =>
    refine ⟨voucherClaim o.namespace s.storageClassName, rfl, ?_⟩
    cases routes <;> simp [preparation, planOf, Manufacturing.plan, deploys]
  | onboarding s =>
    refine ⟨voucherClaim o.namespace none, rfl, ?_⟩
    simp [preparation_onboarding, Onboarding.planFor]
  | rendezvous s => exact absurd rfl kept

/-- The files that are delivered come from the maps that were listed before. -/
theorem names_filesIn (passed : Passed (preparation o routes log s) before)
    (made : log = before ++ after) (delivering : s.kind = .onboarding) :
    ((filesIn (mapsIn log)).map (·.configMap)).Perm (mapNames (mapsIn before)) := by
  cases s with
  | onboarding s =>
    obtain ⟨-, files, read⟩ := accepted_onboarding passed
    rw [mapsIn_prepared passed made] at read ⊢
    unfold filesIn
    rw [read]
    exact Onboarding.names_filesOf read
  | _ => cases delivering

end DeviceOnboard.Reconcile
