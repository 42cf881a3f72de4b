import DeviceOnboard.Proofs.ApplyRuns

/-!
# Plans and their first failure

A server is brought up to date by the steps of a plan: parts of its configuration are checked, and
calls are made. What the answers to two calls tell, the host of a route and the files for devices,
goes into later steps, so a plan depends on the log of a run. Every run carries out its plan up to
the first step that fails, makes no call after it, and ends with the error of this step.
-/
namespace DeviceOnboard.Reconcile

open DeviceOnboard.Cluster DeviceOnboard.Config DeviceOnboard.Kubernetes
open DeviceOnboard.Reconcile.Task DeviceOnboard.Server

variable {α β : Type}

/-! ## Steps -/

/-- What is checked before it goes into an object. -/
inductive Subject where
  | server | files
  deriving DecidableEq, Repr

/-- The error of a reconcile whose subject is refused. -/
def Subject.error : Subject → Config.Error → Error
  | server => .config
  | files => .deviceFile

/-- A step of a plan: a check, with the cause for which its subject is refused if it is, or a
call. -/
inductive Step where
  | check (subject : Subject) (refusal : Option Config.Error)
  | call (q : Call)

/-- The error that something ends with. -/
def errorOf? {ε : Type} : Except ε α → Option ε
  | .ok _ => none
  | .error e => some e

/-- The error that a call got for an answer. -/
def failure? : (q : Call) × q.Answer → Option Cluster.Error
  | ⟨.applyConfigMap .., a⟩ => errorOf? a
  | ⟨.applyDeployment .., a⟩ => errorOf? a
  | ⟨.applyService .., a⟩ => errorOf? a
  | ⟨.applyRoute .., a⟩ => errorOf? a
  | ⟨.ensureClaim .., a⟩ => errorOf? a
  | ⟨.listConfigMaps .., a⟩ => errorOf? a
  | ⟨.listPodNames .., a⟩ => errorOf? a
  | ⟨.patchStatus .., a⟩ => errorOf? a
  | ⟨.publishWarning .., _⟩ => none

namespace Step

/-- What is logged of a step that passes. -/
inductive Passes : Step → Log → Prop where
  | check (subject : Subject) : Passes (.check subject none) []
  | call {entry : (q : Call) × q.Answer} (ok : failure? entry = none) :
      Passes (.call entry.1) [entry]

/-- What is logged of a step that fails, and the error that it ends with. -/
inductive Fails : Step → Log → Error → Prop where
  | check (subject : Subject) (e : Config.Error) :
      Fails (.check subject (some e)) [] (subject.error e)
  | call {entry : (q : Call) × q.Answer} {e : Cluster.Error} (failed : failure? entry = some e) :
      Fails (.call entry.1) [entry] (.cluster e)

/-- The seconds until the next try after a step failed. -/
def retrySeconds : Step → Nat
  | .check .server _ => 60
  | .check .files _ => 30
  | .call _ => 5

theorem Fails.requeueAfter {step : Step} {log : Log} {e : Error} (h : step.Fails log e) :
    e.requeueAfter = step.retrySeconds := by
  cases h with
  | check subject e => cases subject <;> rfl
  | call failed => rfl

end Step

/-- What is logged of steps that all pass. -/
inductive Passed : List Step → Log → Prop where
  | nil : Passed [] []
  | cons {step : Step} {steps : List Step} {part log : Log} (first : step.Passes part)
      (rest : Passed steps log) : Passed (step :: steps) (part ++ log)

/-- What is logged of steps that are carried out up to the first failure, and the result. -/
inductive Ends (a : Action) : List Step → Log → Except Error Action → Prop where
  | done : Ends a [] [] (.ok a)
  | pass {step : Step} {steps : List Step} {part log : Log} {r : Except Error Action}
      (first : step.Passes part) (rest : Ends a steps log r) :
      Ends a (step :: steps) (part ++ log) r
  | fail {step : Step} (steps : List Step) {log : Log} {e : Error} (failed : step.Fails log e) :
      Ends a (step :: steps) log (.error e)

/-! ### What an end says -/

section

variable {a : Action} {steps before after : List Step} {step : Step} {log past part : Log}
  {r r' : Except Error Action} {e : Error}

theorem ends_of_passed (passed : Passed steps log) : Ends a steps log (.ok a) := by
  induction passed with
  | nil => exact .done
  | cons first _ ih => exact .pass first ih

theorem ends_of_fails (passed : Passed before past) (failed : step.Fails part e) :
    Ends a (before ++ step :: after) (past ++ part) (.error e) := by
  induction passed with
  | nil => exact .fail after failed
  | cons first _ ih =>
    rw [List.append_assoc]
    exact .pass first ih

/-- Steps end with success when all pass, or with the error of the first one that fails. -/
theorem Ends.cases (h : Ends a steps log r) :
    (r = .ok a ∧ Passed steps log) ∨
      ∃ e before step after past part, r = .error e ∧ steps = before ++ step :: after ∧
        log = past ++ part ∧ Passed before past ∧ step.Fails part e := by
  induction h with
  | done => exact .inl ⟨rfl, .nil⟩
  | @pass step steps part log r first rest ih =>
    rcases ih with ⟨rfl, passed⟩ |
      ⟨e, before, failing, after, past, last, rfl, rfl, rfl, passed, h⟩
    · exact .inl ⟨rfl, .cons first passed⟩
    · exact .inr ⟨e, step :: before, failing, after, part ++ past, last, rfl, rfl,
        (List.append_assoc _ _ _).symm, .cons first passed, h⟩
  | @fail step steps log e failed =>
    exact .inr ⟨e, [], step, steps, [], log, rfl, rfl, rfl, .nil, failed⟩

theorem ends_passed_check_iff {subject : Subject} :
    Ends a (.check subject none :: steps) log r ↔ Ends a steps log r := by
  constructor
  · intro h
    cases h with
    | pass first rest =>
      cases first
      exact rest
    | fail _ failed => cases failed
  · exact fun h => .pass (.check subject) h

theorem ends_refused_check_iff {subject : Subject} {e : Config.Error} :
    Ends a (.check subject (some e) :: steps) log r ↔
      log = [] ∧ r = .error (subject.error e) := by
  constructor
  · intro h
    cases h with
    | pass first rest => cases first
    | fail _ failed =>
      cases failed
      exact ⟨rfl, rfl⟩
  · rintro ⟨rfl, rfl⟩
    exact .fail _ (.check subject e)

theorem ends_call_iff {q : Call} :
    Ends a (.call q :: steps) log r ↔ ∃ (answer : q.Answer) (rest : Log),
      log = ⟨q, answer⟩ :: rest ∧ (failure? ⟨q, answer⟩ = none ∧ Ends a steps rest r ∨
        ∃ e, failure? ⟨q, answer⟩ = some e ∧ rest = [] ∧ r = .error (.cluster e)) := by
  constructor
  · intro h
    cases h with
    | pass first rest =>
      cases first with
      | call ok => exact ⟨_, _, rfl, .inl ⟨ok, rest⟩⟩
    | fail _ failed =>
      cases failed with
      | call failed => exact ⟨_, [], rfl, .inr ⟨_, failed, rfl, rfl⟩⟩
  · rintro ⟨answer, rest, rfl, ⟨ok, h⟩ | ⟨e, failed, rfl, rfl⟩⟩
    · have first : (Step.call q).Passes [⟨q, answer⟩] := .call ok
      exact .pass first h
    · have last : (Step.call q).Fails [⟨q, answer⟩] (.cluster e) := .call failed
      exact .fail _ last

/-- The log of steps tells how they end. -/
theorem Ends.unique (h : Ends a steps log r) (h' : Ends a steps log r') : r = r' := by
  induction steps generalizing log with
  | nil =>
    cases h
    cases h'
    rfl
  | cons step steps ih =>
    match step with
    | .check subject none => exact ih (ends_passed_check_iff.mp h) (ends_passed_check_iff.mp h')
    | .check subject (some e) =>
      exact (ends_refused_check_iff.mp h).2.trans (ends_refused_check_iff.mp h').2.symm
    | .call q =>
      obtain ⟨answer, rest, rfl, ends⟩ := ends_call_iff.mp h
      obtain ⟨_, _, same, ends'⟩ := ends_call_iff.mp h'
      cases same
      rcases ends with ⟨ok, ends⟩ | ⟨e, failed, _, rfl⟩ <;>
        rcases ends' with ⟨ok', ends'⟩ | ⟨e', failed', _, rfl⟩
      · exact ih ends ends'
      · simp [ok] at failed'
      · simp [failed] at ok'
      · rw [failed] at failed'
        cases failed'
        rfl

/-- The calls of some steps. -/
def calls (steps : List Step) : List Call :=
  steps.filterMap fun
    | .check .. => none
    | .call q => some q

theorem mem_calls_iff {q : Call} : q ∈ calls steps ↔ .call q ∈ steps := by
  unfold calls
  rw [List.mem_filterMap]
  constructor
  · rintro ⟨step, member, same⟩
    cases step with
    | check => cases same
    | call q' => exact Option.some.inj same ▸ member
  · exact fun member => ⟨.call q, member, rfl⟩

/-- The calls that are made are the first ones of the steps. -/
theorem Ends.calls_prefix (h : Ends a steps log r) : log.map (·.1) <+: calls steps := by
  induction h with
  | done => exact List.prefix_rfl
  | pass first rest ih =>
    cases first with
    | check subject => exact ih
    | call ok => exact (List.cons_prefix_cons.mpr ⟨rfl, ih⟩)
  | fail steps failed =>
    cases failed with
    | check subject e => exact List.nil_prefix
    | call failed => exact List.cons_prefix_cons.mpr ⟨rfl, List.nil_prefix⟩

/-- A call is made only after all earlier steps have passed. -/
theorem Ends.passed_before {entry : (q : Call) × q.Answer} {rest : Log} (h : Ends a steps log r)
    (made : log = past ++ entry :: rest) :
    ∃ before after, steps = before ++ .call entry.1 :: after ∧ Passed before past := by
  induction h generalizing past with
  | done => simp at made
  | @pass step steps part log r first ends ih =>
    cases first with
    | check subject =>
      obtain ⟨before, after, rfl, passed⟩ := ih made
      exact ⟨.check subject none :: before, after, rfl, .cons (.check subject) passed⟩
    | @call first ok =>
      cases past with
      | nil =>
        cases made
        exact ⟨[], steps, rfl, .nil⟩
      | cons head past =>
        obtain ⟨rfl, same⟩ := List.cons.inj made
        obtain ⟨before, after, rfl, passed⟩ := ih same
        exact ⟨.call first.1 :: before, after, rfl, .cons (.call ok) passed⟩
  | @fail step steps log e failed =>
    cases failed with
    | check subject e => simp at made
    | @call only e failed =>
      cases past with
      | nil =>
        cases made
        exact ⟨[], steps, rfl, .nil⟩
      | cons head past => simp at made

end

/-! ## Tasks that follow a plan -/

/-- A task carries out its plan up to the first failure. The plan may use what the log tells. -/
def Performs (a : Action) (plan : Log → List Step) (t : Task Action) : Prop :=
  ∀ log r, Runs t log r ↔ Ends a (plan log) log r

/-- The answers to a call are results or errors. -/
structure Answers (q : Call) (answer : Except Cluster.Error α → q.Answer) : Prop where
  onto : ∀ a : q.Answer, ∃ x, answer x = a
  failure : ∀ x, failure? ⟨q, answer x⟩ = errorOf? x

theorem answers_applyConfigMap (ns : String) (m : ConfigMap) : Answers (.applyConfigMap ns m) id :=
  ⟨fun a => ⟨a, rfl⟩, fun _ => rfl⟩

theorem answers_applyDeployment (ns : String) (d : Deployment) :
    Answers (.applyDeployment ns d) id :=
  ⟨fun a => ⟨a, rfl⟩, fun _ => rfl⟩

theorem answers_applyService (ns : String) (s : Service) : Answers (.applyService ns s) id :=
  ⟨fun a => ⟨a, rfl⟩, fun _ => rfl⟩

theorem answers_applyRoute (ns : String) (r : Route) : Answers (.applyRoute ns r) id :=
  ⟨fun a => ⟨a, rfl⟩, fun _ => rfl⟩

theorem answers_ensureClaim (ns : String) (c : VolumeClaim) : Answers (.ensureClaim ns c) id :=
  ⟨fun a => ⟨a, rfl⟩, fun _ => rfl⟩

theorem answers_listConfigMaps (ns selector : String) :
    Answers (.listConfigMaps ns selector) id :=
  ⟨fun a => ⟨a, rfl⟩, fun _ => rfl⟩

section

variable {a : Action} {plan : Log → List Step} {log : Log} {r : Except Error Action}

theorem performs_pure (a : Action) : Performs a (fun _ => []) (pure a) := by
  intro log r
  rw [runs_pure_iff]
  constructor
  · rintro ⟨rfl, rfl⟩
    exact .done
  · intro h
    cases h
    exact ⟨rfl, rfl⟩

theorem performs_check {x : Except Config.Error α} {f : α → Task Action} {subject : Subject}
    (cause : ∀ e, x = .error e → Error.ofConfig e = subject.error e)
    (next : ∀ c, x = .ok c → Performs a plan (f c)) :
    Performs a (fun log => .check subject (errorOf? x) :: plan log) (checked x >>= f) := by
  intro log r
  cases x with
  | ok c => exact (next c rfl log r).trans ends_passed_check_iff.symm
  | error e => exact Dialogue.run_done_iff.trans (cause e rfl ▸ ends_refused_check_iff.symm)

theorem runs_asks_bind_iff {q : Call} {answer : Except Cluster.Error α → q.Answer} {t : Task α}
    {f : α → Task Action} (asks : Asks q answer t) :
    Runs (t >>= f) log r ↔ ∃ x rest, log = ⟨q, answer x⟩ :: rest ∧
      ((∃ b, x = .ok b ∧ Runs (f b) rest r) ∨
        ∃ e, x = .error e ∧ rest = [] ∧ r = .error (.cluster e)) := by
  rw [runs_bind_iff]
  constructor
  · rintro (⟨b, before, after, first, second, rfl⟩ | ⟨e, first, rfl⟩)
    · obtain ⟨x, rfl, found⟩ := asks.mp first
      cases x <;> cases found
      exact ⟨_, after, rfl, .inl ⟨b, rfl, second⟩⟩
    · obtain ⟨x, rfl, found⟩ := asks.mp first
      cases x <;> cases found
      exact ⟨_, [], rfl, .inr ⟨_, rfl, rfl, rfl⟩⟩
  · rintro ⟨x, rest, rfl, ⟨b, rfl, second⟩ | ⟨e, rfl, rfl, rfl⟩⟩
    · exact .inl ⟨b, _, rest, asks.mpr ⟨.ok b, rfl, rfl⟩, second, rfl⟩
    · exact .inr ⟨.cluster e, asks.mpr ⟨.error e, rfl, rfl⟩, rfl⟩

theorem performs_call {q : Call} {answer : Except Cluster.Error α → q.Answer} {t : Task α}
    {f : α → Task Action} (asks : Asks q answer t) (answers : Answers q answer)
    (next : ∀ b, Performs a (fun rest => plan (⟨q, answer (.ok b)⟩ :: rest)) (f b)) :
    Performs a (fun log => .call q :: plan log) (t >>= f) := by
  intro log r
  rw [runs_asks_bind_iff asks, ends_call_iff]
  constructor
  · rintro ⟨x, rest, rfl, ⟨b, rfl, second⟩ | ⟨e, rfl, rfl, rfl⟩⟩
    · exact ⟨_, rest, rfl, .inl ⟨answers.failure _, (next b _ _).mp second⟩⟩
    · exact ⟨_, [], rfl, .inr ⟨e, answers.failure _, rfl, rfl⟩⟩
  · rintro ⟨given, rest, rfl, h⟩
    obtain ⟨x, rfl⟩ := answers.onto given
    rw [answers.failure] at h
    rcases h with ⟨ok, ends⟩ | ⟨e, failed, rfl, rfl⟩
    · cases x with
      | ok b => exact ⟨_, rest, rfl, .inl ⟨b, rfl, (next b _ _).mpr ends⟩⟩
      | error e => cases ok
    · cases x with
      | ok b => cases failed
      | error e' =>
        cases failed
        exact ⟨_, [], rfl, .inr ⟨e, rfl, rfl, rfl⟩⟩

/-- A call that is left out under a condition is left out of the plan as well. -/
theorem performs_optional {q : Call} {answer : Except Cluster.Error α → q.Answer} {t : Task α}
    {rest : Task Action} {steps : List Step} (c : Bool) (asks : Asks q answer t)
    (answers : Answers q answer) (next : Performs a (fun _ => steps) rest) :
    Performs a (fun _ => (if c then [.call q] else []) ++ steps)
      (if c then t >>= fun _ => rest else rest) := by
  cases c
  · exact next
  · exact performs_call asks answers fun _ => next

end

/-! ## The plans of the servers -/

/-- What is written of a part of a configuration; nothing, if it is refused. -/
def written (text : α → String) (x : Except Config.Error α) : String :=
  match x with
  | .ok c => text c
  | .error _ => ""

/-- The host that the answer to the first route of a log gives. -/
def hostIn : Log → Option String
  | [] => none
  | ⟨.applyRoute .., .ok route⟩ :: _ => Route.host? route
  | _ :: log => hostIn log

/-- The configuration maps that the answer to the first list of a log gives. -/
def mapsIn : Log → List ConfigMap
  | [] => []
  | ⟨.listConfigMaps .., .ok maps⟩ :: _ => maps
  | _ :: log => mapsIn log

def Manufacturing.plan (o : Owner) (routes : Bool) (s : ManufacturingSpec) : List Step :=
  .check .server (errorOf? (ManufacturingConfig.ofSpec s)) ::
    ((if routes then [.call (.applyRoute o.namespace
        (o.route Layout.manufacturing.port s.routeHost))] else []) ++
      [.call (.applyConfigMap o.namespace (o.configMap (configMapName o.name)
          Layout.manufacturing.fileName (written (·.text) (ManufacturingConfig.ofSpec s)))),
        .call (.ensureClaim o.namespace (voucherClaim o.namespace s.storageClassName)),
        .call (.applyDeployment o.namespace (deployment o s)),
        .call (.applyService o.namespace (o.service Layout.manufacturing.port))])

def Rendezvous.plan (o : Owner) (routes : Bool) (s : RendezvousSpec) : List Step :=
  [.call (.applyConfigMap o.namespace (o.configMap (configMapName o.name)
      Layout.rendezvous.fileName Config.Rendezvous.text)),
    .call (.applyDeployment o.namespace (deployment o s)),
    .call (.applyService o.namespace (o.service Layout.rendezvous.port))] ++
    if routes then [.call (.applyRoute o.namespace (o.route Layout.rendezvous.port none))] else []

namespace Onboarding

/-- The steps that follow once the host is known, with the configuration maps that are listed. -/
def planFor (o : Owner) (s : OnboardingSpec) (host : Option String) (maps : List ConfigMap) :
    List Step :=
  let config := OnboardingConfig.ofSpec s host
  let files := filesOf maps
  let info := files.map (ServiceInfoConfig.ofSpec s.serviceInfo)
  [.check .server (errorOf? config),
    .call (.applyConfigMap o.namespace (o.configMap (configMapName o.name)
      Layout.onboarding.fileName (written (·.text) config))),
    .call (.listConfigMaps o.namespace (fileSelector o.name)),
    .check .files (errorOf? files),
    .call (.applyConfigMap o.namespace (o.configMap (serviceInfoMapName o.name)
      Layout.serviceInfo.fileName (written (·.text) info))),
    .call (.ensureClaim o.namespace (voucherClaim o.namespace none)),
    .call (.applyDeployment o.namespace (deployment o s (files.toOption.getD []))),
    .call (.applyService o.namespace (o.service Layout.onboarding.port))]

def plan (o : Owner) (routes : Bool) (s : OnboardingSpec) (log : Log) : List Step :=
  if routes then .call (routeCall o) :: planFor o s (hostIn log) (mapsIn log)
  else planFor o s none (mapsIn log)

end Onboarding

theorem Manufacturing.performs (o : Owner) (routes : Bool) (s : ManufacturingSpec) :
    Performs .awaitChange (fun _ => plan o routes s) (apply o routes s) := by
  have cause : ∀ e, ManufacturingConfig.ofSpec s = .error e →
      Error.ofConfig e = Subject.server.error e := fun _ h => (manufacturing_inServer h).ofConfig
  unfold apply plan
  refine performs_check cause fun config h => ?_
  rw [h]
  refine performs_optional routes (asks_applyRoute _ _) (answers_applyRoute _ _) ?_
  refine performs_call (asks_applyConfigMap _ _) (answers_applyConfigMap _ _) fun _ => ?_
  refine performs_call (asks_ensureClaim _ _) (answers_ensureClaim _ _) fun _ => ?_
  refine performs_call (asks_applyDeployment _ _) (answers_applyDeployment _ _) fun _ => ?_
  refine performs_call (asks_applyService _ _) (answers_applyService _ _) fun _ => ?_
  exact performs_pure .awaitChange

theorem Rendezvous.performs (o : Owner) (routes : Bool) (s : RendezvousSpec) :
    Performs .awaitChange (fun _ => plan o routes s) (apply o routes s) := by
  unfold apply plan
  refine performs_call (asks_applyConfigMap _ _) (answers_applyConfigMap _ _) fun _ => ?_
  refine performs_call (asks_applyDeployment _ _) (answers_applyDeployment _ _) fun _ => ?_
  refine performs_call (asks_applyService _ _) (answers_applyService _ _) fun _ => ?_
  cases routes
  · exact performs_pure .awaitChange
  · exact performs_call (asks_applyRoute _ _) (answers_applyRoute _ _) fun _ =>
      performs_pure .awaitChange

namespace Onboarding

theorem performs_rest (o : Owner) (s : OnboardingSpec) (host : Option String) :
    Performs (.requeue resyncSeconds) (fun log => planFor o s host (mapsIn log))
      (checked (OnboardingConfig.ofSpec s host) >>= applyRest o s) := by
  have serverCause : ∀ e, OnboardingConfig.ofSpec s host = .error e →
      Error.ofConfig e = Subject.server.error e := fun _ h => (onboarding_inServer h).ofConfig
  have fileCause (maps : List ConfigMap) : ∀ e, filesOf maps = .error e →
      Error.ofConfig e = Subject.files.error e := fun _ h => if_pos (filesOf_concernsFile h)
  unfold planFor applyRest
  refine performs_check serverCause fun config h => ?_
  rw [h]
  refine performs_call (asks_applyConfigMap _ _) (answers_applyConfigMap _ _) fun _ => ?_
  -- from here on the answer to the list is at the head of the log
  refine performs_call (asks_listConfigMaps _ _) (answers_listConfigMaps _ _) fun maps => ?_
  refine performs_check (fileCause maps) fun files found => ?_
  show Performs _ (fun _ => _) _
  dsimp only [mapsIn, id]
  rw [found]
  refine performs_call (asks_applyConfigMap _ _) (answers_applyConfigMap _ _) fun _ => ?_
  refine performs_call (asks_ensureClaim _ _) (answers_ensureClaim _ _) fun _ => ?_
  refine performs_call (asks_applyDeployment _ _) (answers_applyDeployment _ _) fun _ => ?_
  refine performs_call (asks_applyService _ _) (answers_applyService _ _) fun _ => ?_
  exact performs_pure _

theorem performs (o : Owner) (routes : Bool) (s : OnboardingSpec) :
    Performs (.requeue resyncSeconds) (plan o routes s) (apply o routes s) := by
  rw [apply_eq]
  cases routes with
  | false => exact performs_rest o s none
  | true =>
    show Performs _ (fun log => .call (routeCall o) :: planFor o s (hostIn log) (mapsIn log))
      ((Task.applyRoute o.namespace (o.route Layout.onboarding.port none) >>= fun route =>
        pure route.host?) >>= _)
    rw [bind_assoc]
    refine performs_call (asks_applyRoute _ _) (answers_applyRoute _ _) fun route => ?_
    rw [pure_bind]
    exact performs_rest o s route.host?

end Onboarding

/-- The plan of a server, with what a log tells. -/
def planOf (o : Owner) (routes : Bool) (log : Log) : Spec → List Step
  | .manufacturing s => Manufacturing.plan o routes s
  | .onboarding s => Onboarding.plan o routes s log
  | .rendezvous s => Rendezvous.plan o routes s

/-- What follows a reconcile that carried out its whole plan. -/
def onSuccess : Spec → Action
  | .manufacturing _ | .rendezvous _ => .awaitChange
  | .onboarding _ => .requeue 300

theorem apply_performs (o : Owner) (routes : Bool) (s : Spec) :
    Performs (onSuccess s) (fun log => planOf o routes log s) (apply o routes s) := by
  cases s with
  | manufacturing s => exact Manufacturing.performs o routes s
  | onboarding s => exact Onboarding.performs o routes s
  | rendezvous s => exact Rendezvous.performs o routes s

/-- Every call of a run stands in the plan. -/
theorem calls_planned {o : Owner} {routes : Bool} {s : Spec} {log : Log} {r : Except Error Action}
    (run : Runs (apply o routes s) log r) :
    ∀ q ∈ log.map (·.1), .call q ∈ planOf o routes log s := by
  intro q made
  have ends := (apply_performs o routes s log r).mp run
  exact mem_calls_iff.mp (ends.calls_prefix.subset made)

/-! ## All servers -/

theorem onboarding_maps_ne (server : String) :
    Onboarding.configMapName server ≠ Onboarding.serviceInfoMapName server := by
  unfold Onboarding.configMapName Onboarding.serviceInfoMapName
  rw [ne_eq, String.append_right_inj]
  decide

/-- No call stands twice in a plan. -/
theorem nodup_calls (o : Owner) (routes : Bool) (log : Log) (s : Spec) :
    (calls (planOf o routes log s)).Nodup := by
  cases s with
  | manufacturing s => cases routes <;> simp [planOf, Manufacturing.plan, calls]
  | rendezvous s => cases routes <;> simp [planOf, Rendezvous.plan, calls]
  | onboarding s =>
    have maps (text text' : String) :
        o.configMap (Onboarding.configMapName o.name) Layout.onboarding.fileName text ≠
          o.configMap (Onboarding.serviceInfoMapName o.name) Layout.serviceInfo.fileName text' :=
      fun same => onboarding_maps_ne o.name (Option.some.inj (congrArg (·.metadata.name) same))
    cases routes <;>
      simp [planOf, Onboarding.plan, Onboarding.planFor, Onboarding.routeCall, calls, maps]

/-- For every server and every run of its reconcile, whatever the cluster answers:

- the calls that are made are the first ones of the plan, in its order, and each is made once;
- a call is made only after all steps before it have passed: the checks without a refusal, the calls
  without an error;
- the reconcile succeeds exactly if all steps of the plan have passed, and waits for a change, or
  300 seconds for an onboarding server;
- otherwise it ends with the error of the first step that fails, and is tried again after the time
  that goes with this step.

Every source of answers leads to a run. -/
theorem apply_stops_at_first_failure (o : Owner) (routes : Bool) (s : Spec) :
    (∀ log r, Runs (apply o routes s) log r →
      log.map (·.1) <+: calls (planOf o routes log s) ∧ (log.map (·.1)).Nodup ∧
      (∀ past entry rest, log = past ++ entry :: rest → ∃ before after,
        planOf o routes log s = before ++ .call entry.1 :: after ∧ Passed before past) ∧
      (∀ a, r = .ok a ↔ a = onSuccess s ∧ Passed (planOf o routes log s) log) ∧
      (∀ e, r = .error e ↔ ∃ before step after past part,
        planOf o routes log s = before ++ step :: after ∧ log = past ++ part ∧
          Passed before past ∧ step.Fails part e ∧
            requeueAfter (.error e) = some step.retrySeconds)) ∧
    ∀ (σ : Type) (answer : (q : Call) → σ → q.Answer × σ) (state : σ),
      ∃ log, Runs (apply o routes s) log ((apply o routes s).run.answered answer state).1 := by
  refine ⟨fun log r run => ?_,
    fun σ answer state => Dialogue.exists_run_answered answer _ state⟩
  have ends : Ends (onSuccess s) (planOf o routes log s) log r :=
    (apply_performs o routes s log r).mp run
  have made := ends.calls_prefix
  refine ⟨made, (nodup_calls o routes log s).sublist made.sublist,
    fun past entry rest h => ends.passed_before h, fun a => ⟨fun ok => ?_, ?_⟩,
    fun e => ⟨fun failed => ?_, ?_⟩⟩
  · subst ok
    rcases ends.cases with ⟨same, passed⟩ | ⟨e, _, _, _, _, _, failed, _⟩
    · cases same
      exact ⟨rfl, passed⟩
    · cases failed
  · rintro ⟨rfl, passed⟩
    exact ends.unique (ends_of_passed passed)
  · subst failed
    rcases ends.cases with ⟨ok, _⟩ | ⟨e', before, step, after, past, part, same, h⟩
    · cases ok
    · cases same
      obtain ⟨plan, parts, passed, fails⟩ := h
      exact ⟨before, step, after, past, part, plan, parts, passed, fails,
        congrArg some fails.requeueAfter⟩
  · rintro ⟨before, step, after, past, part, plan, rfl, passed, fails, _⟩
    rw [plan] at ends
    exact ends.unique (ends_of_fails passed fails)

end DeviceOnboard.Reconcile
