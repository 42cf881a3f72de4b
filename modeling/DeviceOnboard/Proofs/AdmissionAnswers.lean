import DeviceOnboard.Admission.Webhook
import DeviceOnboard.Proofs.AdmissionAgreement
import DeviceOnboard.Proofs.JsonText
import DeviceOnboard.Proofs.TrimmedText

/-!
# What the webhook answers

The webhook answers whatever is posted to its root with a review, and allows an object just if it
describes a server that is valid. Which servers these are is said here without reference to the
course of a check. An answer is addressed to the request if this is for a server of some kind, and
to nobody otherwise.
-/
namespace DeviceOnboard.Admission

open DeviceOnboard.Config DeviceOnboard.Json DeviceOnboard.Server

/-! ## Valid servers -/

/-- What the specification of a server has to satisfy. -/
def Valid : Spec → Prop
  | .manufacturing s => 0 ≤ s.replicas ∧ ∃ c, ManufacturingConfig.ofSpec s = .ok c
  | .onboarding s => ∀ a ∈ s.ownerAddresses, a.addresses ≠ [] ∧
      ∀ h ∈ a.addresses, ∃ host,
        HostAddress.ofFields "owner address" h.dnsName h.ipAddress = .ok host
  | .rendezvous s => ∃ c ∈ s.image.toList, Text.isBlank c = false

theorem exists_ofAddress_iff {a : OwnerAddress} :
    (∃ e, OwnerEntry.ofAddress a = .ok e) ↔ a.addresses ≠ [] ∧
      ∀ h ∈ a.addresses, ∃ host,
        HostAddress.ofFields "owner address" h.dnsName h.ipAddress = .ok host := by
  unfold OwnerEntry.ofAddress
  by_cases empty : a.addresses = []
  · simp [empty]
  · rw [if_neg empty, ← exists_mapM_ok_iff]
    cases a.addresses.mapM fun h => HostAddress.ofFields "owner address" h.dnsName h.ipAddress <;>
      simp [empty, Except.map]

theorem trim_ne_empty_iff {s : String} :
    Text.trim s ≠ "" ↔ ∃ c ∈ s.toList, Text.isBlank c = false := by
  rw [ne_eq, Text.trim_eq_empty_iff]
  simp [Text.Blank]

theorem validate_ok_iff {s : Spec} : validate s = .ok () ↔ Valid s := by
  cases s with
  | manufacturing s => exact Reconcile.Manufacturing.admitted_iff
  | onboarding s =>
    have entries : validate (.onboarding s) = .ok () ↔
        ∃ entries, ownerEntries s.ownerAddresses = .ok entries := by
      cases h : ownerEntries s.ownerAddresses <;> simp [validate, h]
    rw [entries, ownerEntries, exists_mapM_ok_iff]
    simp only [exists_ofAddress_iff]
    rfl
  | rendezvous s =>
    have trimmed : validate (.rendezvous s) = .ok () ↔ Text.trim s.image ≠ "" := by
      simp only [validate]
      split <;> simp [*]
    rw [trimmed, trim_ne_empty_iff]
    rfl

/-! ## Kinds by name -/

theorem toList_toLower (s : String) : s.toLower.toList = s.toList.map Char.toLower :=
  String.toList_map

theorem toLower_eq_iff {s t : String} :
    s.toLower = t.toLower ↔ s.toList.map Char.toLower = t.toList.map Char.toLower := by
  rw [← String.toList_inj, toList_toLower, toList_toLower]

/-- A kind is named in letters of either case; the version does not count. -/
structure Names (k : GroupVersionKind) (kind : Kind) : Prop where
  group : k.group.toLower = "fdo.redhat.com"
  kind : k.kind.toLower = kind.resource.kind.toLower

/-- Kinds differ in more than the case of letters. -/
theorem kind_eq_of_toLower_eq {a b : Kind}
    (same : a.resource.kind.toLower = b.resource.kind.toLower) : a = b := by
  rw [toLower_eq_iff] at same
  revert same
  cases a <;> cases b <;> decide

theorem group_toLower (kind : Kind) : kind.resource.group.toLower = "fdo.redhat.com" := by
  have lower : "fdo.redhat.com".toLower = "fdo.redhat.com" := by
    rw [← String.toList_inj, toList_toLower]
    decide
  cases kind <;> exact lower

theorem kindOf?_eq_some_iff {k : GroupVersionKind} {kind : Kind} :
    kindOf? k = some kind ↔ Names k kind := by
  have named (kind : Kind) : (sameLetters k.group kind.resource.group &&
      sameLetters k.kind kind.resource.kind) = true ↔ Names k kind := by
    simp only [sameLetters, Bool.and_eq_true, beq_iff_eq, group_toLower]
    exact ⟨fun h => ⟨h.1, h.2⟩, fun h => ⟨h.group, h.kind⟩⟩
  have sound {other : Kind} (found : kindOf? k = some other) : Names k other := by
    unfold kindOf? at found
    have holds := List.find?_some found
    exact (named other).mp holds
  constructor
  · exact sound
  · intro names
    cases found : kindOf? k with
    | none =>
      have member : kind ∈ Kind.all := by cases kind <;> decide
      exact absurd ((named kind).mpr names) (List.find?_eq_none.mp found kind member)
    | some other =>
      rw [kind_eq_of_toLower_eq ((sound found).kind.symm.trans names.kind)]

/-! ## Requests -/

/-- The request of a body that is a review. -/
def requestIn (body : List UInt8) : Option Request :=
  match decodeBytes Review.decode body with
  | .ok review => review.request
  | .error _ => none

/-- The specification in the object of a request, before it is read as that of a kind. -/
def specIn (r : Request) : Option Json := r.object.bind (findValue? "spec")

/-- A request for a server of a kind with a specification. -/
structure Describes (r : Request) (kind : Kind) (s : Spec) : Prop where
  names : Names r.kind kind
  spec : ∃ j, specIn r = some j ∧ Json.decode (Spec.decode kind) j = .ok s

/-- A body that asks whether a valid server is admitted. -/
def Admits (body : List UInt8) : Prop :=
  ∃ r kind s, requestIn body = some r ∧ Describes r kind s ∧ Valid s

/-- A request describes what every other one with the same group, kind and specification does. -/
theorem Describes.congr {r r' : Request} {kind : Kind} {s : Spec} (describes : Describes r kind s)
    (group : r.kind.group.toLower = r'.kind.group.toLower)
    (name : r.kind.kind.toLower = r'.kind.kind.toLower) (spec : specIn r = specIn r') :
    Describes r' kind s where
  names := ⟨group.symm.trans describes.names.group, name.symm.trans describes.names.kind⟩
  spec := spec ▸ describes.spec

theorem admits_of_same {body other : List UInt8} {r r' : Request}
    (asked : requestIn body = some r) (asked' : requestIn other = some r')
    (group : r.kind.group.toLower = r'.kind.group.toLower)
    (name : r.kind.kind.toLower = r'.kind.kind.toLower) (spec : specIn r = specIn r')
    (admits : Admits body) : Admits other := by
  obtain ⟨found, kind, s, same, describes, valid⟩ := admits
  rw [asked] at same
  cases same
  exact ⟨r', kind, s, asked', describes.congr group name spec, valid⟩

theorem mapError_eq_ok {α ε ε' : Type} {x : Except ε α} {f : ε → ε'} {a : α} :
    x.mapError f = .ok a ↔ x = .ok a := by
  cases x <;> simp [Except.mapError]

theorem specOf_ok_iff {r : Request} {kind : Kind} {s : Spec} :
    specOf kind r.object = .ok s ↔
      ∃ j, specIn r = some j ∧ Json.decode (Spec.decode kind) j = .ok s := by
  unfold specIn
  cases r.object with
  | none => simp [specOf]
  | some ms => cases h : findValue? "spec" ms <;> simp [specOf, h, mapError_eq_ok]

theorem judge_ok_iff {r : Request} {kind : Kind} :
    judge kind r.object = .ok () ↔
      ∃ s, (∃ j, specIn r = some j ∧ Json.decode (Spec.decode kind) j = .ok s) ∧
        Valid s := by
  simp only [← specOf_ok_iff, ← validate_ok_iff]
  cases h : specOf kind r.object <;> simp [judge, h]

theorem answerRequest_isAllowed {apiVersion kind : String} {r : Request} :
    (answerRequest apiVersion kind r).decision.isAllowed = true ↔
      ∃ kind s, Describes r kind s ∧ Valid s := by
  constructor
  · intro allowed
    unfold answerRequest at allowed
    cases found : kindOf? r.kind with
    | none => simp [found, Answer.invalid, Decision.isAllowed] at allowed
    | some serverKind =>
      cases judged : judge serverKind r.object with
      | error e => simp [found, judged, Decision.isAllowed] at allowed
      | ok u =>
        obtain ⟨s, spec, valid⟩ := judge_ok_iff.mp judged
        exact ⟨serverKind, s, ⟨kindOf?_eq_some_iff.mp found, spec⟩, valid⟩
  · rintro ⟨serverKind, s, ⟨names, spec⟩, valid⟩
    have found : kindOf? r.kind = some serverKind := kindOf?_eq_some_iff.mpr names
    have judged : judge serverKind r.object = .ok () := judge_ok_iff.mpr ⟨s, spec, valid⟩
    simp [answerRequest, found, judged, Decision.isAllowed]

theorem answerRequest_of_unnamed {apiVersion kind : String} {r : Request}
    (unnamed : ∀ kind, ¬ Names r.kind kind) :
    answerRequest apiVersion kind r = .invalid ("unsupported resource type: " ++ r.kind.group
      ++ "." ++ r.kind.version ++ "." ++ r.kind.kind) := by
  have found : kindOf? r.kind = none := Option.eq_none_iff_forall_ne_some.mpr fun kind found =>
    unnamed kind (kindOf?_eq_some_iff.mp found)
  simp [answerRequest, found]

/-- The answer to a body allows just what is valid. -/
theorem answer_isAllowed {body : List UInt8} :
    (answer body).decision.isAllowed = true ↔ Admits body := by
  unfold Admits requestIn answer
  cases decodeBytes Review.decode body with
  | error e => simp [Answer.invalid, Decision.isAllowed]
  | ok review =>
    cases h : review.request with
    | none => simp [h, Answer.invalid, Decision.isAllowed]
    | some r => simp [h, answerRequest_isAllowed]

/-! ## Answers as text -/

theorem plain_statusJson (d : Decision) : Plain 1 d.statusJson := by
  cases d with
  | allowed => exact plain_obj .nil (by simp)
  | denied message =>
    have keys : ["message"].Pairwise (· < ·) := List.pairwise_singleton _ _
    exact plain_obj keys (by simp [Members.join, Members.one, plain_str])
  | invalid message =>
    have keys : ["message", "reason", "status"].Pairwise (· < ·) := by decide
    exact plain_obj keys (by simp [Members.join, Members.one, plain_str])

/-- The part of an answer that decides. -/
def responseOf (a : Answer) : Json :=
  .obj [("allowed", .bool a.decision.isAllowed), ("status", a.decision.statusJson),
    ("uid", .str a.uid)]

theorem toJson_eq (a : Answer) :
    a.toJson = .obj [("apiVersion", .str a.apiVersion), ("kind", .str a.kind),
      ("response", responseOf a)] := rfl

theorem plain_answer (a : Answer) : Plain 3 a.toJson := by
  have response : Plain 2 (responseOf a) := by
    have keys : ["allowed", "status", "uid"].Pairwise (· < ·) := by decide
    refine plain_obj keys ?_
    simp [plain_bool, plain_str, plain_statusJson]
  have keys : ["apiVersion", "kind", "response"].Pairwise (· < ·) := by decide
  rw [toJson_eq]
  refine plain_obj keys ?_
  simp [plain_str, response]

theorem decode_answer (a : Answer) :
    Review.decode .text (.ofJson a.toJson) = .ok ⟨a.apiVersion, a.kind, none⟩ := by
  obtain ⟨_, _, _, decision⟩ := a
  cases decision <;> rfl

/-- What a text says about an object, if it is a review with a response. -/
def decisionIn (text : String) : Option Bool :=
  match Json.ofText text with
  | .ok review =>
    (review.get? "response").bind fun response => (response.get? "allowed").bind Json.bool?
  | .error _ => none

theorem decisionIn_answer (a : Answer) :
    decisionIn (Json.text a.toJson) = some a.decision.isAllowed := by
  have read : Json.ofText (Json.text a.toJson) = .ok a.toJson :=
    (plain_answer a).ofText (by decide)
  unfold decisionIn
  rw [read, toJson_eq]
  rfl

/-! ## Requests to the webhook -/

theorem replyTo_root {method target : String} (root : method = "POST" ∧ pathOf target = "/")
    (body : List UInt8) : replyTo method target body = .review (answer body) := by
  simp [replyTo, root.1, root.2]

theorem replyTo_other {method target : String}
    (other : ¬ (method = "POST" ∧ pathOf target = "/")) (body : List UInt8) :
    replyTo method target body = .notFound := by
  simp [replyTo, other]

/-- A target that is a path is that of the root if only a query or a fragment follows. -/
theorem pathOf_eq_root_iff {rest : List Char} :
    pathOf (String.ofList ('/' :: rest)) = "/" ↔
      rest = [] ∨ rest.head? = some '?' ∨ rest.head? = some '#' := by
  have path : pathOf (String.ofList ('/' :: rest)) =
      String.ofList ('/' :: rest.takeWhile fun c => c != '?' && c != '#') := by
    simp [pathOf, beforeQuery]
  rw [path, ← String.toList_inj]
  cases rest with
  | nil => simp
  | cons c cs =>
    by_cases ends : c = '?' ∨ c = '#'
    · rcases ends with rfl | rfl <;> simp
    · rw [not_or] at ends
      simp [ends]

/-- The webhook answers every body that is posted to its root with a review that has a response, and
allows just the servers that are valid. Nothing else is found. Of a request that can be read, only
the group and the kind, in letters of either case, and the specification of the object count. -/
theorem webhook_decides (method target : String) (body : List UInt8) :
    (if method = "POST" ∧ pathOf target = "/" then
      (replyTo method target body).code = 200 ∧
      (replyTo method target body).contentType = some "application/json" ∧
      (∃ review, decodeText Review.decode (replyTo method target body).body = .ok review) ∧
      ∃ allowed, decisionIn (replyTo method target body).body = some allowed ∧
        (allowed = true ↔ Admits body)
    else
      (replyTo method target body).code = 404 ∧
      (replyTo method target body).contentType = none ∧
      (replyTo method target body).body = "") ∧
    (∀ rest : List Char, pathOf (String.ofList ('/' :: rest)) = "/" ↔
      rest = [] ∨ rest.head? = some '?' ∨ rest.head? = some '#') ∧
    ∀ other r r', requestIn body = some r → requestIn other = some r' →
      r.kind.group.toLower = r'.kind.group.toLower →
        r.kind.kind.toLower = r'.kind.kind.toLower → specIn r = specIn r' →
          decisionIn (replyTo method target body).body =
            decisionIn (replyTo method target other).body := by
  refine ⟨?_, fun rest => pathOf_eq_root_iff, fun other r r' asked asked' group name spec => ?_⟩
  · by_cases root : method = "POST" ∧ pathOf target = "/"
    · rw [if_pos root, replyTo_root root]
      have review : decodeText Review.decode (Reply.review (answer body)).body =
          .ok ⟨(answer body).apiVersion, (answer body).kind, none⟩ := by
        rw [Reply.body, (plain_answer _).decodeText (by decide), decode_answer]
      exact ⟨rfl, rfl, ⟨_, review⟩, _, decisionIn_answer (answer body), answer_isAllowed⟩
    · rw [if_neg root, replyTo_other root]
      exact ⟨rfl, rfl, rfl⟩
  · -- Elsewhere both bodies are not found; at the root both are asked the same.
    by_cases root : method = "POST" ∧ pathOf target = "/"
    · rw [replyTo_root root, replyTo_root root, Reply.body, Reply.body, decisionIn_answer,
        decisionIn_answer]
      have same : (answer body).decision.isAllowed = (answer other).decision.isAllowed := by
        rw [Bool.eq_iff_iff, answer_isAllowed, answer_isAllowed]
        exact ⟨admits_of_same asked asked' group name spec,
          admits_of_same asked' asked group.symm name.symm spec.symm⟩
      rw [same]
    · rw [replyTo_other root, replyTo_other root]

/-! ## Addresses of answers -/

/-- To whom an answer goes: the version and the kind of the review, and the identifier of the
request. -/
structure Address where
  apiVersion : String
  kind : String
  uid : String
  deriving DecidableEq, Repr

/-- The address in the text of an answer. -/
def addressIn (text : String) : Option Address :=
  match Json.ofText text with
  | .ok review => do
    let apiVersion ← (← review.get? "apiVersion").str?
    let kind ← (← review.get? "kind").str?
    let uid ← (← (← review.get? "response").get? "uid").str?
    return ⟨apiVersion, kind, uid⟩
  | .error _ => none

theorem addressIn_answer (a : Answer) :
    addressIn (Json.text a.toJson) = some ⟨a.apiVersion, a.kind, a.uid⟩ := by
  have read : Json.ofText (Json.text a.toJson) = .ok a.toJson :=
    (plain_answer a).ofText (by decide)
  unfold addressIn
  rw [read, toJson_eq]
  rfl

section

variable {target : String} {body : List UInt8} {review : Review} {r : Request}

theorem addressIn_reply (root : pathOf target = "/")
    (readable : decodeBytes Review.decode body = .ok review) (asked : review.request = some r) :
    addressIn (replyTo "POST" target body).body =
      some ⟨(answerRequest review.apiVersion review.kind r).apiVersion,
        (answerRequest review.apiVersion review.kind r).kind,
        (answerRequest review.apiVersion review.kind r).uid⟩ := by
  have answered : answer body = answerRequest review.apiVersion review.kind r := by
    simp [answer, readable, asked]
  rw [replyTo_root ⟨rfl, root⟩, Reply.body, addressIn_answer, answered]

/-- A request that can be read is answered under its identifier, in a review of the same version and
kind, if it is for a server of some kind, whether the server is admitted or not. All other requests
are answered as if they could not be read. -/
theorem answer_address (root : pathOf target = "/")
    (readable : decodeBytes Review.decode body = .ok review) (asked : review.request = some r) :
    ((∃ kind, Names r.kind kind) →
      addressIn (replyTo "POST" target body).body =
        some ⟨review.apiVersion, review.kind, r.uid⟩) ∧
    ((∀ kind, ¬ Names r.kind kind) →
      addressIn (replyTo "POST" target body).body =
        some ⟨"admission.k8s.io/v1beta1", "AdmissionReview", ""⟩) := by
  rw [addressIn_reply root readable asked]
  constructor
  · rintro ⟨kind, names⟩
    have found : kindOf? r.kind = some kind := kindOf?_eq_some_iff.mpr names
    cases judged : judge kind r.object <;> simp [answerRequest, found, judged]
  · intro unnamed
    rw [answerRequest_of_unnamed unnamed]
    rfl

end

/-- A review that asks for an object of a kind. -/
def reviewOf (kind : String) : Json :=
  .obj [("apiVersion", .str "admission.k8s.io/v1"), ("kind", .str "AdmissionReview"),
    ("request", .obj [
      ("kind", .obj [("group", .str "fdo.redhat.com"), ("kind", .str kind),
        ("version", .str "v1alpha1")]),
      ("operation", .str "CREATE"),
      ("resource", .obj [("group", .str "fdo.redhat.com"), ("resource", .str "servers"),
        ("version", .str "v1alpha1")]),
      ("uid", .str "8f0b"), ("userInfo", .obj [])])]

/-- The request of such a review. -/
def requestOf (kind : String) : Request where
  uid := "8f0b"
  kind := ⟨"fdo.redhat.com", "v1alpha1", kind⟩
  operation := .create
  object := none

theorem decode_reviewOf (kind : String) :
    decodeBytes Review.decode (utf8 (Json.text (reviewOf kind))) =
      .ok ⟨"admission.k8s.io/v1", "AdmissionReview", some (requestOf kind)⟩ := by
  have reviewKeys : ["apiVersion", "kind", "request"].Pairwise (· < ·) := by decide
  have requestKeys : ["kind", "operation", "resource", "uid", "userInfo"].Pairwise (· < ·) := by
    decide
  have kindKeys : ["group", "kind", "version"].Pairwise (· < ·) := by decide
  have resourceKeys : ["group", "resource", "version"].Pairwise (· < ·) := by decide
  have plain : Plain 3 (reviewOf kind) := by
    refine plain_obj reviewKeys ?_
    simp only [List.forall_mem_cons, plain_str, true_and, List.not_mem_nil, false_implies,
      implies_true, and_true]
    refine plain_obj requestKeys ?_
    simp only [List.forall_mem_cons, plain_str, true_and, List.not_mem_nil, false_implies,
      implies_true, and_true]
    exact ⟨plain_obj kindKeys (by simp [plain_str]), plain_obj resourceKeys (by simp [plain_str]),
      plain_obj .nil (by simp)⟩
  refine (plain.decodeText (by decide) Review.decode).trans ?_
  rfl

/-- The object is missing in this review, so the server is denied, but to the one who asked. -/
theorem answer_address_rendezvous :
    pathOf "/" = "/" ∧ Names (requestOf "FDORendezvousServer").kind .rendezvous ∧
      addressIn (replyTo "POST" "/" (utf8 (Json.text (reviewOf "FDORendezvousServer")))).body =
        some ⟨"admission.k8s.io/v1", "AdmissionReview", "8f0b"⟩ := by
  have root : pathOf "/" = "/" := by decide
  have names : Names (requestOf "FDORendezvousServer").kind .rendezvous :=
    ⟨group_toLower .rendezvous, rfl⟩
  exact ⟨root, names, (answer_address root (decode_reviewOf _) rfl).1 ⟨_, names⟩⟩

/-- Whoever asks for an object of no kind that is known gets an answer to nobody. -/
theorem unknown_kind_unaddressed :
    ∃ review r, decodeBytes Review.decode (utf8 (Json.text (reviewOf "FDOUnknownServer"))) =
        .ok review ∧ review.request = some r ∧
      ∃ address, addressIn (replyTo "POST" "/"
          (utf8 (Json.text (reviewOf "FDOUnknownServer")))).body = some address ∧
        address.uid ≠ r.uid ∧ address.apiVersion ≠ review.apiVersion := by
  have unnamed : ∀ kind, ¬ Names (requestOf "FDOUnknownServer").kind kind := by
    intro kind names
    have same := toLower_eq_iff.mp names.kind
    revert same
    cases kind <;> decide
  refine ⟨_, _, decode_reviewOf _, rfl, _,
    addressIn_reply (by decide) (decode_reviewOf _) rfl, ?_⟩
  rw [answerRequest_of_unnamed unnamed]
  decide

end DeviceOnboard.Admission
