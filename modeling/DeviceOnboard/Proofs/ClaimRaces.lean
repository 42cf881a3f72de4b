import DeviceOnboard.Api.Cluster
import DeviceOnboard.Proofs.DecodedMembers
import DeviceOnboard.Proofs.DialogueRuns
import DeviceOnboard.Simulation.Transport

/-!
# Servers that make one claim at once

Several reconciles may want the claim for vouchers of a namespace at the same time. Each looks for
it, and makes it when it is not there; between the two requests others may have made it. In
whichever order the API server takes their requests, all of them succeed and leave one claim: the
one that was there, or one that was submitted.
-/
namespace DeviceOnboard.Api

open DeviceOnboard.Cluster DeviceOnboard.Dialogue DeviceOnboard.Kubernetes DeviceOnboard.Server
open DeviceOnboard.Server.MountedVolume (voucherClaimName)

/-! ## One call -/

/-- A text can stand in a path. -/
def Addressable (s : String) : Prop := s.toList.all isPathChar = true

instance (s : String) : Decidable (Addressable s) := inferInstanceAs (Decidable (_ = true))

theorem addressable_append {s t : String} :
    Addressable (s ++ t) ↔ Addressable s ∧ Addressable t := by
  unfold Addressable
  rw [String.toList_append, List.all_append, Bool.and_eq_true]

namespace Response

/-- The response has a claim. -/
def FindsClaim (r : Response) : Prop := ∃ c, r.value VolumeClaim.decode = .ok c

/-- The response says that there is no claim. -/
def ReportsMissing (r : Response) : Prop :=
  ∃ e, r.value VolumeClaim.decode = .error (.api e) ∧ e.reason = "NotFound"

/-- The response says that the claim is there already. -/
def ReportsConflict (r : Response) : Prop :=
  ∃ e, r.value VolumeClaim.decode = .error (.api e) ∧ e.code = 409

end Response

/-- The request that looks for the claim. -/
def lookRequest (ns : String) : Request :=
  { method := .get, path := objectPath .claims ns voucherClaimName }

/-- The claim as it is submitted. -/
def submitted (ns : String) (storageClass : Option String) : Json :=
  (voucherClaim ns storageClass).toJson

/-- The request that makes the claim. -/
def makeRequest (ns : String) (storageClass : Option String) : Request :=
  { method := .post, path := Resource.claims.path (some ns)
    payload := some (.object (submitted ns storageClass)) }

/-- What a call comes to once it has asked for the claim to be made. -/
def afterMake (r : Response) : Except Error Unit :=
  match r.value VolumeClaim.decode with
  | .ok _ => .ok ()
  | .error (.api e) => if e.code = 409 then .ok () else .error (.api e)
  | .error e => .error e

/-- How a call goes on once it has looked for the claim. -/
def afterLook (ns : String) (storageClass : Option String) (r : Response) :
    Exchange (Except Error Unit) :=
  match r.value VolumeClaim.decode with
  | .ok _ => .done (.ok ())
  | .error (.api e) =>
    if e.reason = "NotFound" then
      .ask (makeRequest ns storageClass) fun r => .done (afterMake r)
    else .done (.error (.api e))
  | .error e => .done (.error e)

section

variable {ns : String} {storageClass : Option String}

theorem addressable_claims (addressable : Addressable ns) :
    Addressable (Resource.claims.path (some ns)) := by
  have root : Addressable (Resource.claims.root ++ "/namespaces/") := by decide
  have plural : Addressable ("/" ++ Resource.claims.plural) := by decide
  rw [Resource.path, String.append_assoc]
  exact addressable_append.mpr ⟨addressable_append.mpr ⟨root, addressable⟩, plural⟩

theorem addressable_look (addressable : Addressable ns) : Addressable (lookRequest ns).path := by
  have name : Addressable ("/" ++ voucherClaimName) := by decide
  rw [lookRequest, objectPath, String.append_assoc]
  exact addressable_append.mpr ⟨addressable_claims addressable, name⟩

theorem send_of_addressable {α : Type} {q : Request} (addressable : Addressable q.path)
    (d : Json.Decoder α) : send q d = .ask q fun r => .done (r.value d) :=
  if_pos addressable

/-- A call looks for the claim, and then goes on. -/
theorem ensureClaim_eq (addressable : Addressable ns) :
    ensureClaim ns (voucherClaim ns storageClass) =
      .ask (lookRequest ns) (afterLook ns storageClass) := by
  have path : Addressable (makeRequest ns storageClass).path := addressable_claims addressable
  have make : create ns (voucherClaim ns storageClass).manifest VolumeClaim.decode =
      .ask (makeRequest ns storageClass) fun r => .done (r.value VolumeClaim.decode) :=
    send_of_addressable path _
  have name : (voucherClaim ns storageClass).metadata.nameOrStem = voucherClaimName := rfl
  have look : sendNamed voucherClaimName (lookRequest ns) VolumeClaim.decode =
      .ask (lookRequest ns) fun r => .done (r.value VolumeClaim.decode) :=
    (if_neg (by decide)).trans (send_of_addressable (addressable_look addressable) _)
  unfold ensureClaim find?
  rw [name, make]
  show (Dialogue.bind (sendNamed voucherClaimName (lookRequest ns) VolumeClaim.decode) _).bind _ = _
  rw [look]
  refine congrArg (Dialogue.ask _) (funext fun r => ?_)
  unfold afterLook
  simp only [Dialogue.bind]
  cases r.value VolumeClaim.decode with
  | ok c => rfl
  | error e =>
    cases e with
    | api e =>
      by_cases missing : e.reason = "NotFound"
      · simp only [missing, if_true, Dialogue.bind]
        refine congrArg (Dialogue.ask _) (funext fun r' => ?_)
        unfold afterMake
        cases r'.value VolumeClaim.decode with
        | ok c => rfl
        | error e' =>
          cases e' with
          | api e' => by_cases conflict : e'.code = 409 <;> simp [conflict]
          | _ => rfl
      · simp [missing, Dialogue.bind]
    | _ => rfl

/-! ### What the responses lead to -/

variable {r : Response}

theorem afterLook_of_finds (finds : r.FindsClaim) :
    afterLook ns storageClass r = .done (.ok ()) := by
  obtain ⟨c, value⟩ := finds
  simp [afterLook, value]

theorem afterLook_of_missing (missing : r.ReportsMissing) :
    afterLook ns storageClass r =
      .ask (makeRequest ns storageClass) fun r => .done (afterMake r) := by
  obtain ⟨e, value, reason⟩ := missing
  simp [afterLook, value, reason]

theorem afterLook_of_failed {e : Error} (failed : r.value VolumeClaim.decode = .error e)
    (other : ¬ r.ReportsMissing) : afterLook ns storageClass r = .done (.error e) := by
  cases e with
  | api e =>
    have reason : e.reason ≠ "NotFound" := fun missing => other ⟨e, failed, missing⟩
    simp [afterLook, failed, reason]
  | _ => simp [afterLook, failed]

theorem afterMake_of_finds (finds : r.FindsClaim) : afterMake r = .ok () := by
  obtain ⟨c, value⟩ := finds
  simp [afterMake, value]

theorem afterMake_of_conflict (conflict : r.ReportsConflict) : afterMake r = .ok () := by
  obtain ⟨e, value, code⟩ := conflict
  simp [afterMake, value, code]

theorem afterMake_of_failed {e : Error} (failed : r.value VolumeClaim.decode = .error e)
    (other : ¬ r.ReportsConflict) : afterMake r = .error e := by
  cases e with
  | api e =>
    have code : e.code ≠ 409 := fun conflict => other ⟨e, failed, conflict⟩
    simp [afterMake, failed, code]
  | _ => simp [afterMake, failed]

/-- The requests of a call with their responses, and what it comes to. -/
inductive Ensures (ns : String) (storageClass : Option String) :
    Log Request (fun _ => Response) → Except Error Unit → Prop where
  | found {r : Response} (finds : r.FindsClaim) :
      Ensures ns storageClass [⟨lookRequest ns, r⟩] (.ok ())
  | unknown {r : Response} {e : Error} (failed : r.value VolumeClaim.decode = .error e)
      (other : ¬ r.ReportsMissing) : Ensures ns storageClass [⟨lookRequest ns, r⟩] (.error e)
  | made {r r' : Response} (missing : r.ReportsMissing)
      (there : r'.FindsClaim ∨ r'.ReportsConflict) :
      Ensures ns storageClass [⟨lookRequest ns, r⟩, ⟨makeRequest ns storageClass, r'⟩] (.ok ())
  | refused {r r' : Response} {e : Error} (missing : r.ReportsMissing)
      (failed : r'.value VolumeClaim.decode = .error e) (other : ¬ r'.ReportsConflict) :
      Ensures ns storageClass [⟨lookRequest ns, r⟩, ⟨makeRequest ns storageClass, r'⟩] (.error e)

/-- Whatever the server answers, a call succeeds if the claim is there, or is missing and then made
by the call or by someone else; any other failure is the error of the call. -/
theorem run_ensureClaim_iff (addressable : Addressable ns)
    {log : Log Request fun _ => Response} {result : Except Error Unit} :
    Run (ensureClaim ns (voucherClaim ns storageClass)) log result ↔
      Ensures ns storageClass log result := by
  rw [ensureClaim_eq addressable, run_ask_iff]
  constructor
  · intro h
    obtain ⟨r, rest, rfl, run⟩ := h
    cases value : r.value VolumeClaim.decode with
    | ok c =>
      rw [afterLook_of_finds ⟨c, value⟩, run_done_iff] at run
      obtain ⟨rfl, rfl⟩ := run
      exact .found ⟨c, value⟩
    | error e =>
      by_cases missing : r.ReportsMissing
      · rw [afterLook_of_missing missing, run_ask_iff] at run
        obtain ⟨r', _, rfl, last⟩ := run
        obtain ⟨rfl, rfl⟩ := run_done_iff.mp last
        cases value' : r'.value VolumeClaim.decode with
        | ok c =>
          rw [afterMake_of_finds ⟨c, value'⟩]
          exact .made missing (.inl ⟨c, value'⟩)
        | error e' =>
          by_cases conflict : r'.ReportsConflict
          · rw [afterMake_of_conflict conflict]
            exact .made missing (.inr conflict)
          · rw [afterMake_of_failed value' conflict]
            exact .refused missing value' conflict
      · rw [afterLook_of_failed value missing, run_done_iff] at run
        obtain ⟨rfl, rfl⟩ := run
        exact .unknown value missing
  · intro h
    cases h with
    | found finds => exact ⟨_, [], rfl, afterLook_of_finds finds ▸ .done _⟩
    | unknown failed other => exact ⟨_, [], rfl, afterLook_of_failed failed other ▸ .done _⟩
    | @made r r' missing there =>
      have result : afterMake r' = .ok () :=
        there.elim afterMake_of_finds afterMake_of_conflict
      exact ⟨_, _, rfl, afterLook_of_missing missing ▸
        run_ask_iff.mpr ⟨r', [], rfl, result ▸ .done _⟩⟩
    | @refused r r' e missing failed other =>
      have result : afterMake r' = .error e := afterMake_of_failed failed other
      exact ⟨_, _, rfl, afterLook_of_missing missing ▸
        run_ask_iff.mpr ⟨r', [], rfl, result ▸ .done _⟩⟩

end

/-! ## A server that keeps the claims of a namespace -/

/-- The name that an object gives itself. -/
def nameIn (j : Json) : Option String :=
  ((j.get? "metadata").bind fun m => m.get? "name").bind Json.str?

/-- A server finds a claim exactly when it is there, and makes one unless its name is taken. -/
inductive Serves (ns : String) (claims : Dictionary Json) :
    Request → Response → Dictionary Json → Prop where
  | found {name : String} {held : Json} {r : Response} (there : claims.find? name = some held)
      (finds : r.FindsClaim) :
      Serves ns claims { method := .get, path := objectPath .claims ns name } r claims
  | missing {name : String} {r : Response} (free : claims.find? name = none)
      (missing : r.ReportsMissing) :
      Serves ns claims { method := .get, path := objectPath .claims ns name } r claims
  | made {name : String} {j : Json} {r : Response} (named : nameIn j = some name)
      (free : claims.find? name = none) (finds : r.FindsClaim) :
      Serves ns claims
        { method := .post, path := Resource.claims.path (some ns), payload := some (.object j) }
        r (claims.insert name j)
  | taken {name : String} {j held : Json} {r : Response} (named : nameIn j = some name)
      (there : claims.find? name = some held) (conflict : r.ReportsConflict) :
      Serves ns claims
        { method := .post, path := Resource.claims.path (some ns), payload := some (.object j) }
        r claims

theorem nameIn_submitted (ns : String) (storageClass : Option String) :
    nameIn (submitted ns storageClass) = some voucherClaimName := by
  have metadata : (submitted ns storageClass).get? "metadata" =
      some (voucherClaim ns storageClass).metadata.toJson := by
    simp [submitted, VolumeClaim.toJson, VolumeClaim.manifest, Manifest.toJson, Json.get?,
      Json.members, sortEntries, List.foldl_append, findValue?_setEntry_self]
  have name : (voucherClaim ns storageClass).metadata.toJson.get? "name" =
      some (.str voucherClaimName) := by
    simp [voucherClaim, ObjectMeta.toJson, Json.get?, Json.members, Json.Members.join,
      Json.Members.opt, sortEntries, findValue?_setEntry_self, findValue?_setEntry_of_ne]
  simp [nameIn, metadata, name, Json.str?]

theorem objectPath_inj {r : Resource} {ns name name' : String}
    (same : objectPath r ns name = objectPath r ns name') : name = name' :=
  (String.append_right_inj _).mp same

section

variable {ns : String} {storageClass : Option String} {claims claims' : Dictionary Json}
  {r : Response}

theorem serves_look (h : Serves ns claims (lookRequest ns) r claims') :
    claims' = claims ∧
      ((claims.find? voucherClaimName).isSome = true ∧ r.FindsClaim ∨
        claims.find? voucherClaimName = none ∧ r.ReportsMissing) := by
  generalize asked : lookRequest ns = q at h
  cases h with
  | @found name held r there finds =>
    obtain rfl : voucherClaimName = name := objectPath_inj (congrArg Request.path asked)
    exact ⟨rfl, .inl ⟨by simp [there], finds⟩⟩
  | @missing name r free missing =>
    obtain rfl : voucherClaimName = name := objectPath_inj (congrArg Request.path asked)
    exact ⟨rfl, .inr ⟨free, missing⟩⟩
  | made => cases congrArg Request.method asked
  | taken => cases congrArg Request.method asked

theorem serves_make (h : Serves ns claims (makeRequest ns storageClass) r claims') :
    (claims.find? voucherClaimName = none ∧ r.FindsClaim ∧
        claims' = claims.insert voucherClaimName (submitted ns storageClass)) ∨
      ((claims.find? voucherClaimName).isSome = true ∧ r.ReportsConflict ∧ claims' = claims) := by
  generalize asked : makeRequest ns storageClass = q at h
  cases h with
  | found => cases congrArg Request.method asked
  | missing => cases congrArg Request.method asked
  | @made name j r named free finds =>
    obtain rfl : submitted ns storageClass = j := by simpa [makeRequest] using asked
    obtain rfl : voucherClaimName = name := by simpa [nameIn_submitted] using named
    exact .inl ⟨free, finds, rfl⟩
  | @taken name j held r named there conflict =>
    obtain rfl : submitted ns storageClass = j := by simpa [makeRequest] using asked
    obtain rfl : voucherClaimName = name := by simpa [nameIn_submitted] using named
    exact .inr ⟨by simp [there], conflict, rfl⟩

end

/-! ### Responses of such a server -/

def claimResponse : Response := ⟨200, "\x7b\x7d"⟩

def missingResponse : Response := ⟨404, Simulation.Transport.notFoundBody⟩

def conflictResponse : Response := ⟨409, "already exists"⟩

theorem claimResponse_finds : claimResponse.FindsClaim := ⟨_, rfl⟩

theorem missingResponse_missing : missingResponse.ReportsMissing :=
  ⟨apiErrorOf missingResponse, rfl, by decide +kernel⟩

theorem conflictResponse_conflict : conflictResponse.ReportsConflict :=
  ⟨apiErrorOf conflictResponse, rfl, by decide +kernel⟩

theorem exists_serves_look (ns : String) (claims : Dictionary Json) :
    ∃ r claims', Serves ns claims (lookRequest ns) r claims' := by
  cases held : claims.find? voucherClaimName with
  | none => exact ⟨_, _, .missing held missingResponse_missing⟩
  | some j => exact ⟨_, _, .found held claimResponse_finds⟩

theorem exists_serves_make (ns : String) (storageClass : Option String)
    (claims : Dictionary Json) :
    ∃ r claims', Serves ns claims (makeRequest ns storageClass) r claims' := by
  have named := nameIn_submitted ns storageClass
  cases held : claims.find? voucherClaimName with
  | none => exact ⟨_, _, .made named held claimResponse_finds⟩
  | some j => exact ⟨_, _, .taken named held conflictResponse_conflict⟩

/-! ## Many calls at once -/

/-- A call that is under way. -/
structure Caller where
  storageClass : Option String
  /-- The requests that it has sent. -/
  sent : List Request
  /-- What it has still to do. -/
  rest : Exchange (Except Error Unit)

/-- The claims of a namespace, and the calls that want one of them. -/
structure Race where
  claims : Dictionary Json
  callers : List Caller

namespace Race

/-- Calls with these storage classes that are about to begin. -/
def start (ns : String) (initial : Dictionary Json) (classes : List (Option String)) : Race :=
  ⟨initial, classes.map fun k => ⟨k, [], ensureClaim ns (voucherClaim ns k)⟩⟩

/-- The server takes the next request of any one of the calls. -/
inductive Step (ns : String) : Race → Race → Prop where
  | take {claims claims' : Dictionary Json} (before after : List Caller)
      {storageClass : Option String} {sent : List Request} {q : Request}
      {next : Response → Exchange (Except Error Unit)} {r : Response}
      (serves : Serves ns claims q r claims') :
      Step ns ⟨claims, before ++ ⟨storageClass, sent, .ask q next⟩ :: after⟩
        ⟨claims', before ++ ⟨storageClass, sent ++ [q], next r⟩ :: after⟩

/-- What some calls come to after a number of requests. -/
inductive Reaches (ns : String) (start : Race) : Nat → Race → Prop where
  | refl : Reaches ns start 0 start
  | step {n : Nat} {s s' : Race} (reached : Reaches ns start n s) (step : Step ns s s') :
      Reaches ns start (n + 1) s'

/-- The claim is in the namespace. -/
def Present (claims : Dictionary Json) : Prop := (claims.find? voucherClaimName).isSome = true

/-- How far a call has come. -/
inductive Phase (ns : String) (claims : Dictionary Json) : Caller → Prop where
  | looking (k : Option String) :
      Phase ns claims ⟨k, [], .ask (lookRequest ns) (afterLook ns k)⟩
  | making (k : Option String) :
      Phase ns claims
        ⟨k, [lookRequest ns], .ask (makeRequest ns k) fun r => .done (afterMake r)⟩
  | found (k : Option String) (there : Present claims) :
      Phase ns claims ⟨k, [lookRequest ns], .done (.ok ())⟩
  | made (k : Option String) (there : Present claims) :
      Phase ns claims ⟨k, [lookRequest ns, makeRequest ns k], .done (.ok ())⟩

/-- The claims are those of the beginning, together with the claim of one of the calls if there was
none. -/
def Left (ns : String) (initial : Dictionary Json) (classes : List (Option String))
    (claims : Dictionary Json) : Prop :=
  claims = initial ∨ initial.find? voucherClaimName = none ∧
    ∃ k ∈ classes, claims = initial.insert voucherClaimName (submitted ns k)

section

variable {ns : String} {initial claims claims' : Dictionary Json} {classes : List (Option String)}
  {c : Caller} {n : Nat} {s s' : Race}

theorem present_insert (j : Json) : Present (claims.insert voucherClaimName j) := by
  unfold Present Dictionary.find? Dictionary.insert
  rw [findValue?_setEntry_self]
  rfl

/-- The names of claims are distinct. -/
theorem Present.count (h : Present claims) : claims.keys.count voucherClaimName = 1 := by
  obtain ⟨j, found⟩ := Option.isSome_iff_exists.mp h
  have distinct := nodup_of_ascending claims.ascending
  have member := (findValue?_eq_some_iff distinct).mp found
  exact List.count_eq_one_of_mem distinct (List.mem_map_of_mem member)

/-- A call that has come to an end does not mind what happens to the claims, as long as its own is
not taken away. -/
theorem Phase.mono (h : Phase ns claims c) (keeps : Present claims → Present claims') :
    Phase ns claims' c := by
  cases h with
  | looking k => exact .looking k
  | making k => exact .making k
  | found k there => exact .found k (keeps there)
  | made k there => exact .made k (keeps there)

/-- What one request does to its call and to the claims. -/
theorem Phase.next {k : Option String} {sent : List Request} {q : Request}
    {next : Response → Exchange (Except Error Unit)} {r : Response}
    (h : Phase ns claims ⟨k, sent, .ask q next⟩) (serves : Serves ns claims q r claims') :
    Phase ns claims' ⟨k, sent ++ [q], next r⟩ ∧
      (claims' = claims ∨
        ¬ Present claims ∧ claims' = claims.insert voucherClaimName (submitted ns k)) := by
  cases h with
  | looking k =>
    obtain ⟨rfl, ⟨there, finds⟩ | ⟨free, missing⟩⟩ := serves_look serves
    · rw [afterLook_of_finds finds]
      exact ⟨.found k there, .inl rfl⟩
    · rw [afterLook_of_missing missing]
      exact ⟨.making k, .inl rfl⟩
  | making k =>
    rcases serves_make serves with ⟨free, finds, rfl⟩ | ⟨there, conflict, rfl⟩
    · show Phase ns _ ⟨k, _, .done (afterMake r)⟩ ∧ _
      rw [afterMake_of_finds finds]
      exact ⟨.made k (present_insert _), .inr ⟨by simp [Present, free], rfl⟩⟩
    · show Phase ns _ ⟨k, _, .done (afterMake r)⟩ ∧ _
      rw [afterMake_of_conflict conflict]
      exact ⟨.made k there, .inl rfl⟩

/-- What holds after any number of requests. -/
structure Invariant (ns : String) (initial : Dictionary Json) (classes : List (Option String))
    (n : Nat) (s : Race) : Prop where
  callers : s.callers.map (·.storageClass) = classes
  phases : ∀ c ∈ s.callers, Phase ns s.claims c
  sent : (s.callers.flatMap (·.sent)).length = n
  left : Left ns initial classes s.claims

theorem invariant_start (addressable : Addressable ns) (initial : Dictionary Json)
    (classes : List (Option String)) :
    Invariant ns initial classes 0 (start ns initial classes) where
  callers := by simp [start, Function.comp_def]
  phases c member := by
    obtain ⟨k, _, rfl⟩ := List.mem_map.mp member
    rw [ensureClaim_eq addressable]
    exact .looking k
  sent := by simp [start, Function.comp_def]
  left := .inl rfl

theorem Left.insert {k : Option String} (h : Left ns initial classes claims) (known : k ∈ classes)
    (free : ¬ Present claims) :
    Left ns initial classes (claims.insert voucherClaimName (submitted ns k)) := by
  rcases h with rfl | ⟨_, k', _, rfl⟩
  · exact .inr ⟨by simpa [Present] using free, k, known, rfl⟩
  · exact absurd (present_insert _) free

theorem Invariant.step (h : Invariant ns initial classes n s) (step : Step ns s s') :
    Invariant ns initial classes (n + 1) s' := by
  cases step with
  | @take claims claims' before after k sent q next r serves =>
    obtain ⟨callers, phases, total, left⟩ := h
    obtain ⟨hbefore, hrest⟩ := List.forall_mem_append.mp phases
    obtain ⟨own, hafter⟩ := List.forall_mem_cons.mp hrest
    obtain ⟨phase, change⟩ := own.next serves
    have keeps : Present claims → Present claims' := by
      intro there
      rcases change with rfl | ⟨free, _⟩
      · exact there
      · exact absurd there free
    have known : k ∈ classes := by
      rw [← callers]
      simp
    have counted : ((before ++ ⟨k, sent ++ [q], next r⟩ :: after).flatMap (·.sent)).length =
        n + 1 := by
      simp only [List.flatMap_append, List.flatMap_cons, List.length_append, List.length_singleton]
        at total ⊢
      omega
    refine ⟨by simpa using callers, ?_, counted, ?_⟩
    · refine List.forall_mem_append.mpr ⟨fun c member => (hbefore c member).mono keeps, ?_⟩
      exact List.forall_mem_cons.mpr ⟨phase, fun c member => (hafter c member).mono keeps⟩
    · rcases change with rfl | ⟨free, rfl⟩
      · exact left
      · exact left.insert known free

theorem Reaches.invariant (addressable : Addressable ns)
    (h : Reaches ns (start ns initial classes) n s) : Invariant ns initial classes n s := by
  induction h with
  | refl => exact invariant_start addressable initial classes
  | step _ step ih => exact ih.step step

/-- Callers of at most two requests each have sent no more than two for each of them. -/
theorem length_sent_le {callers : List Caller} (each : ∀ c ∈ callers, c.sent.length ≤ 2) :
    (callers.flatMap (·.sent)).length ≤ 2 * callers.length := by
  induction callers with
  | nil => simp
  | cons c rest ih =>
    obtain ⟨first, others⟩ := List.forall_mem_cons.mp each
    have bound := ih others
    rw [List.flatMap_cons, List.length_append, List.length_cons]
    omega

/-- A call goes on with a request that the server takes, or has succeeded. -/
theorem Phase.goesOn (h : Phase ns claims c) :
    c.sent <+: [lookRequest ns, makeRequest ns c.storageClass] ∧
      ((∃ q next r claims', c.rest = .ask q next ∧ Serves ns claims q r claims') ∨
        c.rest = .done (.ok ()) ∧ c.sent ≠ [] ∧ claims.keys.count voucherClaimName = 1) := by
  cases h with
  | looking k =>
    obtain ⟨r, claims', serves⟩ := exists_serves_look ns claims
    exact ⟨List.nil_prefix, .inl ⟨_, _, r, claims', rfl, serves⟩⟩
  | making k =>
    obtain ⟨r, claims', serves⟩ := exists_serves_make ns k claims
    exact ⟨List.prefix_append _ _, .inl ⟨_, _, r, claims', rfl, serves⟩⟩
  | found k there => exact ⟨List.prefix_append _ _, .inr ⟨rfl, by simp, there.count⟩⟩
  | made k there => exact ⟨List.prefix_rfl, .inr ⟨rfl, by simp, there.count⟩⟩

end

end Race

/-- However the requests of some calls are mixed, on a server that finds a claim exactly when it is
there and makes one unless its name is taken:

- a call sends one request that looks for the claim, and at most one that makes it;
- as long as a call has not ended, the server takes its next request, and there are at most two
  requests for each call;
- a call that has ended has succeeded, and then there is one claim of the name;
- the claims are those of the beginning, together with the claim that one of the calls submitted if
  there was none.

With arbitrary answers, a call ends as `Ensures` says. The name of the namespace can stand in a
path, as the names of namespaces can; for any other name no request could be sent. -/
theorem ensureClaim_any_order {ns : String} (addressable : Addressable ns) :
    (∀ initial classes n s, Race.Reaches ns (Race.start ns initial classes) n s →
      s.callers.map (·.storageClass) = classes ∧ n ≤ 2 * classes.length ∧
      (∀ c ∈ s.callers, c.sent <+: [lookRequest ns, makeRequest ns c.storageClass] ∧
        ((∃ q next r claims', c.rest = .ask q next ∧ Serves ns s.claims q r claims') ∨
          c.rest = .done (.ok ()) ∧ c.sent ≠ [] ∧ s.claims.keys.count voucherClaimName = 1)) ∧
      Race.Left ns initial classes s.claims) ∧
    ∀ storageClass log result, Run (ensureClaim ns (voucherClaim ns storageClass)) log result ↔
      Ensures ns storageClass log result := by
  refine ⟨fun initial classes n s reached => ?_,
    fun storageClass log result => run_ensureClaim_iff addressable⟩
  have h := reached.invariant addressable
  refine ⟨h.callers, ?_, fun c member => (h.phases c member).goesOn, h.left⟩
  have sent := Race.length_sent_le fun c member => (h.phases c member).goesOn.1.length_le
  rwa [h.sent, ← List.length_map (·.storageClass), h.callers] at sent

/-- Of two calls that both miss the claim the second one makes it, and the first one succeeds as
well. -/
theorem second_call_makes_claim : ∃ s, Race.Reaches "devices"
      (Race.start "devices" .empty [none, some "fast"]) 4 s ∧
    s.claims = Dictionary.empty.insert voucherClaimName (submitted "devices" (some "fast")) ∧
    ∀ c ∈ s.callers, c.sent <+: [lookRequest "devices", makeRequest "devices" c.storageClass] ∧
      c.rest = .done (.ok ()) := by
  have addressable : Addressable "devices" := by decide
  let begun (k : Option String) : Caller :=
    ⟨k, [], .ask (lookRequest "devices") (afterLook "devices" k)⟩
  let looked (k : Option String) : Caller :=
    ⟨k, [lookRequest "devices"], afterLook "devices" k missingResponse⟩
  let missed (k : Option String) : Caller :=
    ⟨k, [lookRequest "devices"], .ask (makeRequest "devices" k) fun r => .done (afterMake r)⟩
  let ended (k : Option String) (r : Response) : Caller :=
    ⟨k, [lookRequest "devices", makeRequest "devices" k], .done (afterMake r)⟩
  let made := Dictionary.empty.insert voucherClaimName (submitted "devices" (some "fast"))
  have same (k : Option String) : looked k = missed k := by
    simp [looked, missed, afterLook_of_missing missingResponse_missing]
  have start : Race.start "devices" .empty [none, some "fast"] =
      ⟨.empty, [begun none, begun (some "fast")]⟩ := by
    simp [Race.start, ensureClaim_eq addressable, begun]
  have free : Serves "devices" .empty (lookRequest "devices") missingResponse .empty :=
    .missing rfl missingResponse_missing
  have first : Race.Step "devices" ⟨.empty, [begun none, begun (some "fast")]⟩
      ⟨.empty, [looked none, begun (some "fast")]⟩ := .take [] [begun (some "fast")] free
  have second : Race.Step "devices" ⟨.empty, [looked none, begun (some "fast")]⟩
      ⟨.empty, [looked none, looked (some "fast")]⟩ := .take [looked none] [] free
  have third : Race.Step "devices" ⟨.empty, [missed none, missed (some "fast")]⟩
      ⟨made, [missed none, ended (some "fast") claimResponse]⟩ :=
    .take [missed none] [] (.made (nameIn_submitted _ _) rfl claimResponse_finds)
  have fourth : Race.Step "devices" ⟨made, [missed none, ended (some "fast") claimResponse]⟩
      ⟨made, [ended none conflictResponse, ended (some "fast") claimResponse]⟩ :=
    .take [] [ended (some "fast") claimResponse]
      (.taken (nameIn_submitted _ _) (findValue?_setEntry_self _ _ _) conflictResponse_conflict)
  have reached : Race.Reaches "devices" ⟨.empty, [begun none, begun (some "fast")]⟩ 2
      ⟨.empty, [looked none, looked (some "fast")]⟩ := (Race.Reaches.refl.step first).step second
  rw [same, same] at reached
  have all := (reached.step third).step fourth
  rw [← start] at all
  obtain ⟨_, _, calls, _⟩ := (ensureClaim_any_order addressable).1 _ _ _ _ all
  refine ⟨_, all, rfl, fun c member => ⟨(calls c member).1, ?_⟩⟩
  rcases List.mem_pair.mp member with rfl | rfl
  · exact congrArg _ (afterMake_of_conflict conflictResponse_conflict)
  · exact congrArg _ (afterMake_of_finds claimResponse_finds)

end DeviceOnboard.Api
