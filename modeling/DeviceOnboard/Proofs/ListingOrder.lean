import DeviceOnboard.Proofs.JsonText
import DeviceOnboard.Proofs.ListResponses

/-!
# The order of lists

Two API servers that differ in nothing but the order in which they list configuration maps and pods
see the same cycles: the same requests with the same content, and the same outcome. Only a
configuration map that should hold a file and does not may be found in another order, and then no
more than the error that is reported depends on it.
-/
namespace DeviceOnboard.Reconcile

open DeviceOnboard.Api DeviceOnboard.Cluster DeviceOnboard.Dialogue DeviceOnboard.Json
open DeviceOnboard.Kubernetes DeviceOnboard.Server
open DeviceOnboard.Reconcile.Onboarding (fileOf filesOf mapNames greeting)
open DeviceOnboard.Reconcile.Task (Log Runs)

variable {α : Type}

/-! ## Where the order makes no difference -/

/-- All configuration maps that an entry lists hold a file. -/
def Readable (entry : (q : Call) × q.Answer) : Prop :=
  ∀ m ∈ listedIn entry, ∃ f, fileOf m = .ok f

/-- The answers to a call are the same, and what they list can be read. -/
def SameFiles (q : Call) (a a' : q.Answer) : Prop := SameAnswer q a a' ∧ Readable ⟨q, a⟩

/-- Where the order in which files are listed makes no difference. -/
abbrev InAnyOrder (t : Task α) : Prop := Steady SameFiles t.run

namespace InAnyOrder

variable {β : Type} {t : Task α}

theorem pure (a : α) : InAnyOrder (Pure.pure a) := .done _

theorem checked (x : Except Config.Error α) : InAnyOrder (Task.checked x) := by
  cases x <;> exact .done _

theorem bind {f : α → Task β} (first : InAnyOrder t) (next : ∀ a, InAnyOrder (f a)) :
    InAnyOrder (t >>= f) := by
  refine steady_bind first fun x => ?_
  cases x with
  | ok a => exact next a
  | error e => exact .done _

theorem attempt {d : Cluster.Dialogue (Except Cluster.Error α)} (h : Steady SameFiles d) :
    InAnyOrder (Task.attempt d) := by
  refine steady_bind h fun x => ?_
  cases x <;> exact .done _

theorem optional {rest : Task β} (c : Bool) (first : InAnyOrder t) (next : InAnyOrder rest) :
    InAnyOrder (if c then t >>= fun _ => rest else rest) := by
  cases c
  · exact next
  · exact first.bind fun _ => next

end InAnyOrder

theorem steady_call {q : Call} {next : q.Answer → Cluster.Dialogue α} (other : lists q = false)
    (rest : ∀ a, Steady SameFiles (next a)) : Steady SameFiles (.ask q next) :=
  steady_ask (fun _ _ h => (h.1.eq other).symm) rest

/-- A list may go on with the files of what is listed. -/
theorem inAnyOrder_list {ns selector : String} {f : List ConfigMap → Task α}
    (files : ∀ {maps maps'}, filesOf maps' = filesOf maps → f maps' = f maps)
    (rest : ∀ maps, InAnyOrder (f maps)) : InAnyOrder (Task.listConfigMaps ns selector >>= f) := by
  let next : Except Cluster.Error (List ConfigMap) → Cluster.Dialogue (Except Error α)
    | .ok maps => (f maps).run
    | .error e => .done (.error (.cluster e))
  have steps : (Task.listConfigMaps ns selector >>= f).run =
      .ask (.listConfigMaps ns selector) next := by
    show Dialogue.ask _ _ = _
    refine congrArg _ (funext fun a => ?_)
    cases (a : Except Cluster.Error (List ConfigMap)) <;> rfl
  show Steady SameFiles _
  rw [steps]
  refine .ask (fun a a' h => ?_) fun a => ?_
  · obtain ⟨same, readable⟩ := h
    cases same with
    | same => rfl
    | maps distinct order =>
      have read := Onboarding.filesOf_ok_iff.mpr ⟨readable, rfl⟩
      have read' := Onboarding.filesOf_perm read distinct order
      exact congrArg ExceptT.run (files (read'.trans read.symm)).symm
  · cases (a : Except Cluster.Error (List ConfigMap)) with
    | ok maps => exact rest maps
    | error e => exact .done _

section

variable (o : Owner) (routes : Bool)

theorem Manufacturing.inAnyOrder (s : ManufacturingSpec) : InAnyOrder (apply o routes s) := by
  unfold apply
  refine .bind (.checked _) fun config => ?_
  refine .optional routes (.attempt (steady_call rfl .done)) ?_
  refine .bind (.attempt (steady_call rfl .done)) fun _ => ?_
  refine .bind (.attempt (steady_call rfl .done)) fun _ => ?_
  refine .bind (.attempt (steady_call rfl .done)) fun _ => ?_
  refine .bind (.attempt (steady_call rfl .done)) fun _ => ?_
  exact .pure _

theorem Rendezvous.inAnyOrder (s : RendezvousSpec) : InAnyOrder (apply o routes s) := by
  unfold apply
  refine .bind (.attempt (steady_call rfl .done)) fun _ => ?_
  refine .bind (.attempt (steady_call rfl .done)) fun _ => ?_
  refine .bind (.attempt (steady_call rfl .done)) fun _ => ?_
  exact .optional routes (.attempt (steady_call rfl .done)) (.pure _)

theorem Onboarding.inAnyOrder (s : OnboardingSpec) : InAnyOrder (apply o routes s) := by
  unfold apply
  refine .bind ?_ fun host => .bind (.checked _) fun config => ?_
  · cases routes
    · exact .pure _
    · exact .bind (.attempt (steady_call rfl .done)) fun _ => .pure _
  refine .bind (.attempt (steady_call rfl .done)) fun _ => ?_
  refine inAnyOrder_list (fun same => by rw [same]) fun maps => ?_
  refine .bind (.checked _) fun files => ?_
  refine .bind (.attempt (steady_call rfl .done)) fun _ => ?_
  refine .bind (.attempt (steady_call rfl .done)) fun _ => ?_
  refine .bind (.attempt (steady_call rfl .done)) fun _ => ?_
  refine .bind (.attempt (steady_call rfl .done)) fun _ => ?_
  exact .pure _

theorem inAnyOrder_apply (s : Spec) : InAnyOrder (apply o routes s) := by
  cases s with
  | manufacturing s => exact Manufacturing.inAnyOrder o routes s
  | onboarding s => exact Onboarding.inAnyOrder o routes s
  | rendezvous s => exact Rendezvous.inAnyOrder o routes s

end

/-- The order in which files are listed makes no difference to a cycle, if they can be read. -/
theorem steady_reconcile (server : ServerObject) (routes : Bool) (now : Time) (m : Metrics) :
    Steady SameFiles (reconcile server routes now m) := by
  unfold reconcile
  split
  · exact .done _
  · refine steady_bind (inAnyOrder_apply _ _ _) fun result => ?_
    refine steady_bind ?_ fun _ => steady_bind ?_ fun _ => .done _
    · cases result
      · exact steady_call rfl .done
      · exact .done _
    · refine steady_bind ?_ fun pods => ?_
      · refine steady_call rfl fun pods => ?_
        cases (pods : Except Cluster.Error (List String)) <;> exact .done _
      · dsimp only
        split
        · exact .done _
        · exact steady_call rfl fun _ => .done _

/-! ## Cycles against an API server -/

/-- What there is to see of a cycle whose calls are carried out against an API server: the calls
with their answers, the requests that are sent, the outcome, and the recorder and the state of the
server afterwards. -/
structure Observed (σ : Type) where
  calls : Log
  requests : List Request
  outcome : Except Error Action × Metrics
  recorder : Recorder
  state : σ

/-- A cycle against an API server. -/
def observed {σ : Type} (serve : Request → σ → Response × σ) (server : ServerObject) (routes : Bool)
    (now : Time) (m : Metrics) (r : Recorder) (s : σ) : Observed σ :=
  let cycle := reconcile server routes now m
  let ended := (performAll now cycle r).answered serve s
  { calls := cycle.trace (through (perform now) serve) (r, s)
    requests := (performAll now cycle r).asked serve s
    outcome := ended.1.1
    recorder := ended.1.2
    state := ended.2 }

section

variable {σ σ' : Type} {R : σ → σ' → Prop} {serve : Request → σ → Response × σ}
  {serve' : Request → σ' → Response × σ'} {s : σ} {t : σ'} {server : ServerObject} {routes : Bool}
  {now : Time} {m : Metrics} {r : Recorder}

theorem run_observed :
    Run (reconcile server routes now m) (observed serve server routes now m r s).calls
      (observed serve server routes now m r s).outcome := by
  have same : (observed serve server routes now m r s).outcome = _ :=
    congrArg (·.1.1) (answered_expand (perform now) serve (reconcile server routes now m) r s)
  rw [same]
  exact run_trace _ _ _

theorem alike_through (h : ListsAlike R serve serve') (now : Time) :
    Alike SameAnswer (fun x x' => x.1 = x'.1 ∧ R x.2 x'.2) (through (perform now) serve)
      (through (perform now) serve') := by
  rintro q ⟨r, s⟩ ⟨_, t⟩ ⟨rfl, related⟩
  have first := together_perform h related now q r
  exact ⟨first.result.1, first.result.2, first.state⟩

theorem answered_keeping {β : Type} (d : Exchange β) :
    ((keeping r d).answered serve s).1.1 = (d.answered serve s).1 := by
  unfold keeping
  rw [answered_bind]
  rfl

/-- What is listed is in a response of the API server. -/
theorem value_of_listing {ns selector : String} {maps : List ConfigMap}
    (ok : (through (perform now) serve (.listConfigMaps ns selector) (r, s)).1 =
      (listing ns selector maps).2) :
    (serve (listRequest .configMaps ns selector) s).1.value (decodeList ConfigMap.decode) =
      .ok maps := by
  have kept : (through (perform now) serve (.listConfigMaps ns selector) (r, s)).1 =
      ((list .configMaps ns selector ConfigMap.decode).answered serve s).1 := by
    unfold through
    dsimp only [perform]
    exact answered_keeping _
  have listed := kept.symm.trans ok
  unfold list send at listed
  split at listed
  · exact listed
  · cases listed

theorem value_of_observed (h : ListsAlike R serve serve') (related : R s t) {ns selector : String}
    {maps : List ConfigMap}
    (member : listing ns selector maps ∈ (observed serve server routes now m r s).calls) :
    ∃ u v, R u v ∧ (serve (listRequest .configMaps ns selector) u).1.value
      (decodeList ConfigMap.decode) = .ok maps := by
  have keeps : ∀ q (x : Recorder × σ), (∃ t, R x.2 t) →
      ∃ t, R (through (perform now) serve q x).2.2 t := fun q x ⟨t, related⟩ =>
    ⟨_, (together_perform h related now q x.1).state⟩
  obtain ⟨⟨r, u⟩, ⟨v, related'⟩, given⟩ := exists_state_of_trace keeps ⟨t, related⟩ _ member
  exact ⟨u, v, related', value_of_listing given.symm⟩

end

/-- For two API servers that are alike except for the order in which they list configuration maps
and pods, every server of any kind, and every state that they start from:

- if all configuration maps that are listed hold a file, then both API servers see the same cycle:
  equal calls, equal requests, the same outcome and the same recorder, and their states are still
  alike. The files of an onboarding server are then in ascending order of the names of their
  configuration maps, one for each, in all that is made of them: the volumes and the mounts of its
  pod, and the document for service information;
- if a configuration map that is listed holds none, then both cycles make the same calls until they
  list it, and end with an error about a file. None of what follows the files has been applied, and
  all that is left is to record the outcome. -/
theorem lists_in_any_order {σ σ' : Type} {R : σ → σ' → Prop} {serve : Request → σ → Response × σ}
    {serve' : Request → σ' → Response × σ'} (alike : ListsAlike R serve serve') {s : σ} {t : σ'}
    (related : R s t) (server : ServerObject) (routes : Bool) (now : Time) (m : Metrics)
    (r : Recorder) :
    let one := observed serve server routes now m r s
    let other := observed serve' server routes now m r t
    ((∀ entry ∈ one.calls, Readable entry) →
      one.calls.map (·.1) = other.calls.map (·.1) ∧ one.requests = other.requests ∧
      one.outcome = other.outcome ∧ one.recorder = other.recorder ∧ R one.state other.state ∧
      ∀ ns spec, server.metadata.namespace = some ns → server.spec = .onboarding spec →
        ∀ place selector maps, listing place selector maps ∈ one.calls →
          ∃ files, Delivered (ownerOf server ns) spec maps one.calls files) ∧
    ∀ entry ∈ one.calls, ¬ Readable entry →
      ∃ before ns selector maps maps' after after' e e',
        entry = listing ns selector maps ∧ maps.Perm maps' ∧
        one.calls = before ++ listing ns selector maps :: after ∧
        other.calls = before ++ listing ns selector maps' :: after' ∧
        one.outcome.1 = .error (.deviceFile e) ∧ other.outcome.1 = .error (.deviceFile e') ∧
        (∀ entry ∈ before, followsFiles server.metadata.nameOrStem entry.1 = false) ∧
        ∀ entry ∈ after ++ after', isRecord entry.1 = true := by
  intro one other
  have run : Run (reconcile server routes now m) one.calls one.outcome := run_observed
  have run' : Run (reconcile server routes now m) other.calls other.outcome := run_observed
  refine ⟨fun readable => ?_, fun entry member unreadable => ?_⟩
  · obtain ⟨calls, together⟩ := together_expand
      (fun q r s t related => together_perform alike related now q r)
      (steady_reconcile server routes now m) related readable
    have ended := Prod.mk.inj together.result
    refine ⟨calls, together.asked, ended.1, ended.2, together.state, ?_⟩
    intro ns spec placed kind place selector maps member
    obtain ⟨u, v, related', listed⟩ := value_of_observed alike related member
    have distinct := alike.names place selector u v maps related' listed
    exact cycle_delivered run placed kind member distinct (readable _ member)
  · obtain ⟨m, listed, -⟩ : ∃ m, m ∈ listedIn entry ∧ ¬ ∃ f, fileOf m = .ok f := by
      simpa [Readable] using unreadable
    obtain ⟨ns, selector, known⟩ := eq_listing listed
    generalize listedIn entry = maps at known
    subst known
    obtain ⟨before, after, calls⟩ := List.append_of_mem member
    obtain ⟨early, late, e, failed⟩ := cycle_refused unreadable (calls ▸ run)
    have certain : ∀ entry ∈ before, ∀ a, SameAnswer entry.1 entry.2 a → a = entry.2 :=
      fun entry member a same => same.eq (early entry member).1
    obtain ⟨a, after', calls', same⟩ :=
      trace_until (alike_through alike now) (t := (r, t)) ⟨rfl, related⟩ certain calls
    obtain ⟨maps', rfl, order⟩ := same.listed
    change other.calls = _ at calls'
    have unreadable' : ¬ Readable (listing ns selector maps') := fun readable =>
      unreadable fun m member => readable m (order.mem_iff.mp member)
    obtain ⟨-, late', e', failed'⟩ := cycle_refused unreadable' (calls' ▸ run')
    exact ⟨before, ns, selector, maps, maps', after, after', e, e', rfl, order, calls, calls',
      failed, failed', fun entry member => (early entry member).2,
      List.forall_mem_append.mpr ⟨late, late'⟩⟩

/-! ### Two files in both orders -/

/-- The annotations of a configuration map with a text that is put on devices. -/
def greetingAnnotations : Json :=
  .obj
    [("fdo.serviceinfo.file/name", .str "motd"), ("fdo.serviceinfo.file/path", .str "/etc/motd")]

def greetingMetadata (name : String) : Json :=
  .obj [("annotations", greetingAnnotations), ("name", .str name)]

/-- Such a configuration map as an API server writes it. -/
def greetingJson (name : String) : Json :=
  .obj [("data", .obj [("motd", .str "welcome")]), ("metadata", greetingMetadata name)]

/-- A list of such configuration maps. -/
def greetingsJson (names : List String) : Json := .obj [("items", .arr (names.map greetingJson))]

theorem plain_greetingsJson (names : List String) : Plain 5 (greetingsJson names) := by
  have metadata (name : String) : Plain 2 (greetingMetadata name) := by
    refine plain_obj (show ["annotations", "name"].Pairwise (· < ·) by decide) ?_
    have annotations : Plain 1 greetingAnnotations :=
      plain_obj (by decide) (by simp [plain_str])
    simp [plain_str, annotations]
  have item (name : String) : Plain 3 (greetingJson name) := by
    refine plain_obj (show ["data", "metadata"].Pairwise (· < ·) by decide) ?_
    have data : Plain 2 (.obj [("motd", .str "welcome")]) :=
      plain_obj (by simp) (by simp [plain_str])
    simp [data, metadata]
  refine plain_obj (by simp) (List.forall_mem_singleton.mpr (plain_arr ?_ ?_))
  · exact List.forall_mem_map.mpr fun name _ => opens_obj _
  · exact List.forall_mem_map.mpr fun name _ => item name

theorem value_greetings {names : List String} {maps : List ConfigMap}
    (decoded : decodeList ConfigMap.decode .text (.ofJson (greetingsJson names)) = .ok maps) :
    Response.value (decodeList ConfigMap.decode) ⟨200, (greetingsJson names).text⟩ = .ok maps := by
  unfold Response.value
  rw [(plain_greetingsJson names).decodeText (by decide), decoded]
  rfl

/-- An API server that takes every object, has two configuration maps in one namespace, and has
nothing else. -/
def shelf (a b : String) (q : Request) (u : Unit) : Response × Unit :=
  (match q with
    | ⟨_, _, _, some p⟩ => ⟨200, p.json.text⟩
    | ⟨.get, path, [("labelSelector", _)], none⟩ =>
      if path = Resource.configMaps.path (some "devices") then ⟨200, (greetingsJson [a, b]).text⟩
      else ⟨200, (greetingsJson []).text⟩
    | _ => ⟨404, "\x7b\"code\":404,\"reason\":\"NotFound\",\"status\":\"Failure\"\x7d"⟩, u)

theorem listed_shelf {a b ns selector : String} {u : Unit} {maps : List ConfigMap}
    (listed : (shelf a b (listRequest .configMaps ns selector) u).1.value
      (decodeList ConfigMap.decode) = .ok maps) : maps = [greeting a, greeting b] ∨ maps = [] := by
  have response : (shelf a b (listRequest .configMaps ns selector) u).1 =
      if Resource.configMaps.path (some ns) = Resource.configMaps.path (some "devices") then
        ⟨200, (greetingsJson [a, b]).text⟩
      else ⟨200, (greetingsJson []).text⟩ := rfl
  rw [response] at listed
  split at listed
  · rw [value_greetings rfl] at listed
    exact .inl (Except.ok.inj listed).symm
  · rw [value_greetings rfl] at listed
    exact .inr (Except.ok.inj listed).symm

theorem listsAlike_shelf {a b : String} (distinct : a ≠ b) :
    ListsAlike (fun _ _ => True) (shelf a b) (shelf b a) where
  alike := by
    rintro q u u' -
    refine ⟨?_, trivial⟩
    unfold shelf
    dsimp only
    split
    · exact .inl rfl
    · split
      · rename_i selector place
        subst place
        exact .inr (.inl ⟨"devices", selector, rfl, _, _, value_greetings rfl, value_greetings rfl,
          .swap (greeting b) (greeting a) []⟩)
      · exact .inl rfl
    · exact .inl rfl
  names := by
    rintro ns selector u u' maps - listed
    rcases listed_shelf listed with rfl | rfl
    · simpa [mapNames, greeting, ObjectMeta.nameOrStem] using distinct
    · exact List.nodup_nil

/-- An onboarding server with two files, whose configuration maps are listed in either order. -/
theorem lists_in_any_order_greetings :
    let server := serverNamed "fdo" (.onboarding (onboardingAt "owner.example.com"))
    let one := observed (shelf "motd.b" "motd.a") server false ⟨0, 0⟩ .zero ⟨none, []⟩ ()
    let other := observed (shelf "motd.a" "motd.b") server false ⟨0, 0⟩ .zero ⟨none, []⟩ ()
    one.requests = other.requests ∧ one.outcome = other.outcome := by
  intro server one other
  have alike : ListsAlike (fun _ _ => True) (shelf "motd.b" "motd.a") (shelf "motd.a" "motd.b") :=
    listsAlike_shelf (by decide)
  obtain ⟨same, -⟩ :=
    lists_in_any_order alike (s := ()) (t := ()) trivial server false ⟨0, 0⟩ .zero ⟨none, []⟩
  obtain ⟨-, requests, outcome, -⟩ := same fun entry member m listed => by
    obtain ⟨ns, selector, known⟩ := eq_listing listed
    rw [known] at member
    obtain ⟨_, _, -, found⟩ := value_of_observed (t := ()) alike trivial member
    rcases listed_shelf found with maps | maps
    · rw [maps] at listed
      rcases List.mem_pair.mp listed with rfl | rfl
      · exact ⟨_, rfl⟩
      · exact ⟨_, rfl⟩
    · rw [maps] at listed
      cases listed
  exact ⟨requests, outcome⟩

end DeviceOnboard.Reconcile
