import DeviceOnboard.Api.Cluster
import DeviceOnboard.Proofs.DialogueAgreement
import DeviceOnboard.Proofs.ListedFiles

/-!
# Responses that list in different orders

Two API servers may list the same configuration maps and the same pods in different orders, and
respond the same otherwise. Each call is then carried out by the same requests against both, and
has the same answer, except that configuration maps are listed in the order of the API server.
-/
namespace DeviceOnboard.Reconcile

open DeviceOnboard.Api DeviceOnboard.Cluster DeviceOnboard.Dialogue DeviceOnboard.Json
open DeviceOnboard.Kubernetes DeviceOnboard.Server
open DeviceOnboard.Reconcile.Onboarding (mapNames pairwise_sort)

variable {α : Type}

/-! ## Responses -/

/-- The request for the objects in a namespace that a selector matches. -/
def listRequest (resource : Resource) (ns selector : String) : Request where
  method := .get
  path := resource.path (some ns)
  query := [("labelSelector", selector)]

/-- Two responses list the same items, in any order. -/
def ListsSame (item : Decoder α) (r r' : Response) : Prop :=
  ∃ l l', r.value (decodeList item) = .ok l ∧ r'.value (decodeList item) = .ok l' ∧ l.Perm l'

/-- Two responses to a request are equal, or list the same configuration maps or pods. -/
def SameButOrder (q : Request) (r r' : Response) : Prop :=
  r = r' ∨ (∃ ns selector, q = listRequest .configMaps ns selector ∧
      ListsSame ConfigMap.decode r r') ∨
    ∃ ns selector, q = listRequest .pods ns selector ∧ ListsSame decodePod r r'

/-- Two API servers respond the same from states that `R` relates, except that they may list
configuration maps and pods in different orders. Configuration maps in a list have different
names. -/
structure ListsAlike {σ σ' : Type} (R : σ → σ' → Prop) (serve : Request → σ → Response × σ)
    (serve' : Request → σ' → Response × σ') : Prop where
  alike : Alike SameButOrder R serve serve'
  names : ∀ ns selector s t maps, R s t →
    (serve (listRequest .configMaps ns selector) s).1.value (decodeList ConfigMap.decode) =
      .ok maps → (mapNames maps).Nodup

theorem path_ne (ns ns' : String) :
    Resource.configMaps.path (some ns) ≠ Resource.pods.path (some ns') := by
  intro same
  have ends := congrArg (fun s => (s.toList.reverse.take 2)) same
  simp [Resource.path, Resource.configMaps, Resource.pods] at ends

/-- Configuration maps that are listed are the same up to their order. -/
theorem SameButOrder.maps {ns selector : String} {r r' : Response}
    (h : SameButOrder (listRequest .configMaps ns selector) r r') :
    r = r' ∨ ListsSame ConfigMap.decode r r' := by
  rcases h with same | ⟨_, _, _, lists⟩ | ⟨_, _, other, _⟩
  · exact .inl same
  · exact .inr lists
  · exact absurd (congrArg Request.path other) (path_ne _ _)

theorem SameButOrder.pods {ns selector : String} {r r' : Response}
    (h : SameButOrder (listRequest .pods ns selector) r r') :
    r = r' ∨ ListsSame decodePod r r' := by
  rcases h with same | ⟨_, _, other, _⟩ | ⟨_, _, _, lists⟩
  · exact .inl same
  · exact absurd (congrArg Request.path other).symm (path_ne _ _)
  · exact .inr lists

/-- Requests that list nothing get equal responses. -/
theorem SameButOrder.eq {q : Request} {r r' : Response} (h : SameButOrder q r r')
    (other : q.method ≠ .get ∨ q.query = []) : r = r' := by
  rcases h with same | ⟨_, _, rfl, _⟩ | ⟨_, _, rfl, _⟩
  · exact same
  · simp [listRequest] at other
  · simp [listRequest] at other

/-! ## Requests that list nothing -/

theorem steady_send {q : Request} (other : q.method ≠ .get ∨ q.query = []) (d : Decoder α) :
    Steady SameButOrder (send q d) := by
  unfold send
  split
  · exact steady_ask (fun r r' h => h.eq other) fun r => .done _
  · exact .done _

theorem steady_sendNamed {q : Request} (other : q.method ≠ .get ∨ q.query = []) (name : String)
    (d : Decoder α) : Steady SameButOrder (sendNamed name q d) := by
  unfold sendNamed
  split
  · exact .done _
  · exact steady_send other d

theorem steady_apply (ns : String) (m : Manifest) (d : Decoder α) :
    Steady SameButOrder (Api.apply ns m d) :=
  steady_sendNamed (.inl Method.noConfusion) _ _

theorem steady_create (ns : String) (m : Manifest) (d : Decoder α) :
    Steady SameButOrder (create ns m d) :=
  steady_send (.inl Method.noConfusion) _

theorem steady_mergePatch (r : Resource) (ns name suffix : String) (patch : Json) (d : Decoder α) :
    Steady SameButOrder (mergePatch r ns name suffix patch d) :=
  steady_sendNamed (.inl Method.noConfusion) _ _

theorem steady_ensureClaim (ns : String) (c : VolumeClaim) :
    Steady SameButOrder (Api.ensureClaim ns c) := by
  have found : Steady SameButOrder
      (find? .claims ns c.metadata.nameOrStem VolumeClaim.decode) := by
    refine steady_bind (steady_sendNamed (.inr rfl) _ _) fun answer => ?_
    split <;> exact .done _
  refine steady_bind found fun answer => ?_
  split
  · exact .done _
  · exact .done _
  · refine steady_bind (steady_create _ _ _) fun answer => ?_
    split <;> exact .done _

theorem steady_publish (r : Recorder) (reference : ObjectReference) (note : String) (now : Time) :
    Steady SameButOrder (r.publish reference note now) := by
  refine steady_bind ?_ fun answer => ?_
  · unfold Recorder.transmit
    dsimp only
    split
    · exact steady_mergePatch _ _ _ _ _ _
    · exact steady_create _ _ _
  · split <;> exact .done _

/-! ## Calls -/

/-- The answers to a call are equal, or list the same configuration maps, with different names. -/
inductive SameAnswer : (q : Call) → q.Answer → q.Answer → Prop where
  | same (q : Call) (a : q.Answer) : SameAnswer q a a
  | maps {ns selector : String} {maps maps' : List ConfigMap} (distinct : (mapNames maps).Nodup)
      (order : maps.Perm maps') :
      SameAnswer (.listConfigMaps ns selector) (listing ns selector maps).2
        (listing ns selector maps').2

theorem SameAnswer.eq {q : Call} {a a' : q.Answer} (h : SameAnswer q a a')
    (other : lists q = false) : a' = a := by
  cases h with
  | same => rfl
  | maps => cases other

theorem SameAnswer.listed {ns selector : String} {maps : List ConfigMap}
    {a : (Call.listConfigMaps ns selector).Answer}
    (h : SameAnswer (.listConfigMaps ns selector) (listing ns selector maps).2 a) :
    ∃ maps', a = (listing ns selector maps').2 ∧ maps.Perm maps' := by
  cases h with
  | same => exact ⟨maps, rfl, .refl _⟩
  | maps _ order => exact ⟨_, rfl, order⟩

/-- The names of pods that are listed in any order are the same once they are sorted. -/
theorem sort_eq_of_perm {l l' : List String} (order : l.Perm l') :
    l.mergeSort (fun a b => decide (a ≤ b)) = l'.mergeSort fun a b => decide (a ≤ b) := by
  refine List.Perm.eq_of_pairwise (fun a b _ _ => String.le_antisymm) (pairwise_sort id l)
    (pairwise_sort id l') ?_
  exact (List.mergeSort_perm l _).trans (order.trans (List.mergeSort_perm l' _).symm)

section

variable {σ σ' : Type} {R : σ → σ' → Prop} {serve : Request → σ → Response × σ}
  {serve' : Request → σ' → Response × σ'} {s : σ} {t : σ'}

/-- Lists are the same if they are so for all orders of their items. -/
theorem together_list {resource : Resource} {item : Decoder α} {ns selector : String}
    {E : Except Cluster.Error (List α) → Except Cluster.Error (List α) → Prop}
    (alike : Alike SameButOrder R serve serve') (related : R s t) (refl : ∀ x, E x x)
    (listed : ∀ {r r'}, SameButOrder (listRequest resource ns selector) r r' →
      r = r' ∨ ListsSame item r r')
    (order : ∀ l l',
      (serve (listRequest resource ns selector) s).1.value (decodeList item) = .ok l →
        l.Perm l' → E (.ok l) (.ok l')) :
    Together E R serve serve' (list resource ns selector item) (list resource ns selector item)
      s t := by
  show Together E R serve serve' (send (listRequest resource ns selector) (decodeList item))
    (send (listRequest resource ns selector) (decodeList item)) s t
  obtain ⟨given, related'⟩ := alike (listRequest resource ns selector) s t related
  unfold send
  split
  · refine ⟨rfl, ?_, related'⟩
    show E ((serve _ s).1.value _) ((serve' _ t).1.value _)
    rcases listed given with same | ⟨l, l', first, second, perm⟩
    · rw [same]
      exact refl _
    · rw [first, second]
      exact order l l' first perm
  · exact ⟨rfl, refl _, related⟩

theorem together_map {β γ : Type} {E : β → β → Prop} {E' : γ → γ → Prop} {d : Exchange β}
    {f : β → γ} (first : Together E R serve serve' d d s t)
    (maps : ∀ a a', E a a' → E' (f a) (f a')) :
    Together E' R serve serve' (d.bind fun a => .done (f a)) (d.bind fun a => .done (f a)) s t :=
  together_bind first ⟨rfl, maps _ _ first.result, first.state⟩

theorem together_keeping {β : Type} {E : β → β → Prop} {d : Exchange β}
    (first : Together E R serve serve' d d s t) (r : Recorder) :
    Together (fun x x' => E x.1 x'.1 ∧ x.2 = x'.2) R serve serve' (keeping r d) (keeping r d) s t :=
  together_map first fun _ _ same => ⟨same, rfl⟩

theorem together_listConfigMaps (h : ListsAlike R serve serve') (related : R s t)
    (ns selector : String) :
    Together (SameAnswer (.listConfigMaps ns selector)) R serve serve'
      (list .configMaps ns selector ConfigMap.decode)
      (list .configMaps ns selector ConfigMap.decode) s t :=
  together_list h.alike related (fun x => .same (.listConfigMaps ns selector) x)
    SameButOrder.maps fun maps _ first order =>
      .maps (h.names ns selector s t maps related first) order

theorem together_listPodNames (h : ListsAlike R serve serve') (related : R s t)
    (ns selector : String) :
    Together Eq R serve serve' (listPodNames ns selector) (listPodNames ns selector) s t := by
  let sorted (pods : List Manifest) : List String :=
    (pods.map fun p => p.metadata.nameOrStem).mergeSort fun a b => decide (a ≤ b)
  have first : Together (fun x x' => x.map sorted = x'.map sorted) R serve serve'
      (list .pods ns selector decodePod) (list .pods ns selector decodePod) s t :=
    together_list h.alike related (fun _ => rfl) SameButOrder.pods
      fun _ _ _ order => congrArg Except.ok (sort_eq_of_perm (order.map _))
  exact together_map first fun _ _ same => same

/-- Every call is carried out by the same requests, and its answers are the same. -/
theorem together_perform (h : ListsAlike R serve serve') (related : R s t) (now : Time) (q : Call)
    (r : Recorder) :
    Together (fun x x' => SameAnswer q x.1 x'.1 ∧ x.2 = x'.2) R serve serve' (perform now q r)
      (perform now q r) s t := by
  have equal {β : Type} {d : Exchange β} (steady : Steady SameButOrder d) :
      Together Eq R serve serve' d d s t := together_of_steady h.alike steady related
  have same {q : Call} {d : Exchange q.Answer} (first : Together Eq R serve serve' d d s t) :
      Together (fun x x' => SameAnswer q x.1 x'.1 ∧ x.2 = x'.2) R serve serve' (keeping r d)
        (keeping r d) s t :=
    together_keeping (first.imp fun a b equal => equal ▸ .same q a) r
  cases q with
  | applyConfigMap ns m => exact same (equal (steady_apply _ _ _))
  | applyDeployment ns d => exact same (equal (steady_apply _ _ _))
  | applyService ns s => exact same (equal (steady_apply _ _ _))
  | applyRoute ns v => exact same (equal (steady_apply _ _ _))
  | ensureClaim ns c => exact same (equal (steady_ensureClaim _ _))
  | listConfigMaps ns selector => exact together_keeping (together_listConfigMaps h related _ _) r
  | listPodNames ns selector => exact same (together_listPodNames h related _ _)
  | patchStatus kind ns name status =>
    exact same (equal (steady_bind (steady_mergePatch _ _ _ _ _ _) fun _ => .done _))
  | publishWarning reference note =>
    have steady := steady_bind (steady_publish r reference note now) fun r =>
      (.done ((), r) : Steady SameButOrder (.done ((), r)))
    exact (equal steady).imp fun x x' equal => equal ▸ ⟨.same _ _, rfl⟩

end

end DeviceOnboard.Reconcile
