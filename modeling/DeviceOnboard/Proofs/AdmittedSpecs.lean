import DeviceOnboard.Proofs.SchemaValidity
import DeviceOnboard.Proofs.WrittenForms
import DeviceOnboard.Schema.Definition

/-!
# Specifications that the published schemas admit

The definition of a resource carries the schema of its specification, and what that schema admits
can be read, as long as two things hold that the schema leaves out: numbers are in the range of
their format, and disks that are given under the older spelling of their field fit that field.
-/
namespace DeviceOnboard

open DeviceOnboard.Json DeviceOnboard.Json.Record DeviceOnboard.Kubernetes DeviceOnboard.Server

namespace Schema

/-- The schema of the specification in the definition of a kind. -/
def publishedSpec (kind : Kind) : Option Json := do
  let spec ← (definition kind).get? "spec"
  let versions ← spec.get? "versions"
  let version ← (← versions.arr?).head?
  let schema ← (← version.get? "schema").get? "openAPIV3Schema"
  (← schema.get? "properties").get? "spec"

theorem get?_record (groups : List Members) (key : String) :
    (Json.record groups).get? key = findValue? key (Members.join groups) := rfl

theorem publishedSpec_eq (kind : Kind) : publishedSpec kind = some (spec kind).toJson := by
  have properties : (server kind).toJson.get? "properties" =
      some (.obj (sortEntries (propertyMembers [("spec", spec kind), ("status", status)]))) := by
    rw [server, described, titled, get?_annotate (by decide), get?_annotate (by decide),
      get?_object]
    simp
  have found : findValue? "spec"
      (sortEntries (propertyMembers [("spec", spec kind), ("status", status)])) =
        some (spec kind).toJson :=
    (findValue?_properties (by simp)).mpr ⟨spec kind, by simp, rfl⟩
  simp [publishedSpec, definition, versionJson, get?_record, arr?, properties]
  exact found

/-! ## Readability -/

/-- A number is in the range of its format. -/
def InRange (format : String) : Json → Prop
  | .int n => (format = "int32" → -2147483648 ≤ n ∧ n ≤ 2147483647) ∧
      (format = "uint16" → 0 ≤ n ∧ n ≤ 65535)
  | _ => True

/-- Whatever a schema admits in the ranges of its formats can be decoded. -/
def Covers {α : Type} (s : Schema) (d : Decoder α) : Prop :=
  ∀ v, Admits InRange s.toJson v → ∃ a, Json.decode d v = .ok a

/-- Some value is built of the members of an object. -/
def Readable {α : Type} (r : Record α) (ms : Members) : Prop := ∃ a, Reads r ms a

section

variable {α β : Type} {d : Decoder α} {s : Schema}

theorem covers_described {text : String} (h : Covers s d) : Covers (s.described text) d :=
  fun v admitted => h v (admits_described_iff.mp admitted)

theorem covers_withDefault {value : Json} (h : Covers s d) : Covers (s.withDefault value) d :=
  fun v admitted => h v (admits_withDefault_iff.mp admitted)

/-- An option is read from `null`, and from what its value is read from. -/
theorem decodes_nullable {v : Json} (h : v ≠ .null → ∃ a, Json.decode d v = .ok a) :
    ∃ a, Json.decode d.nullable v = .ok a := by
  by_cases present : v = .null
  · exact ⟨none, by rw [present]; rfl⟩
  · obtain ⟨a, read⟩ := h present
    exact ⟨some a, decode_nullable read present⟩

theorem covers_option (h : Covers s d) : Covers s d.nullable :=
  fun v admitted => decodes_nullable fun _ => h v admitted

theorem covers_nullable (h : Covers s d) : Covers s.nullable d.nullable := by
  intro v admitted
  refine decodes_nullable fun present => h v ?_
  exact (admits_nullable_iff.mp admitted).resolve_left present

theorem covers_string : Covers string Decoder.string := by
  intro v admitted
  obtain ⟨s, rfl⟩ := admits_string_iff.mp admitted
  exact ⟨s, rfl⟩

theorem covers_boolean : Covers boolean Decoder.boolean := by
  intro v admitted
  obtain ⟨b, rfl⟩ := admits_boolean_iff.mp admitted
  exact ⟨b, rfl⟩

/-- A variant has the names that its schema allows. -/
theorem covers_choice (all : List α) (name : α → String) :
    Covers (choice (all.map name)) (Decoder.variant (all.map fun a => (name a, a))) := by
  intro v admitted
  obtain ⟨key, member, rfl⟩ := admits_choice_iff.mp admitted
  obtain ⟨a, inside, rfl⟩ := List.mem_map.mp member
  cases found : (all.map fun a => (name a, a)).find? (fun p => p.1 == name a) with
  | none => exact absurd (List.find?_eq_none.mp found _ (List.mem_map_of_mem inside)) (by simp)
  | some p =>
    refine ⟨p.2, ?_⟩
    show Decoder.variantNamed _ (name a) = .ok p.2
    rw [Decoder.variantNamed, found]

theorem decodes_list {l : List Json} (each : ∀ x ∈ l, ∃ a, Json.decode d x = .ok a) :
    ∃ as, Json.decode (Decoder.list d) (.arr l) = .ok as := by
  have read : ∃ as, Decoder.each d .value (Input.ofItems l) = .ok as := by
    induction l with
    | nil => exact ⟨[], rfl⟩
    | cons x l ih =>
      obtain ⟨⟨a, first⟩, rest⟩ := List.forall_mem_cons.mp each
      obtain ⟨as, all⟩ := ih rest
      change d .value (.ofJson x) = .ok a at first
      refine ⟨a :: as, ?_⟩
      simp only [Input.ofItems, Decoder.each, first, all]
      rfl
  obtain ⟨as, read⟩ := read
  refine ⟨as, ?_⟩
  unfold Json.decode Decoder.list
  simp only [Input.ofJson, read, Input.ending, syntactic]

theorem covers_list {item : Schema} (h : Covers item d) : Covers (list item) (Decoder.list d) := by
  intro v admitted
  obtain ⟨l, rfl, each⟩ := admits_list_iff.mp admitted
  exact decodes_list fun x member => h x (each x member)

theorem covers_dictionary (h : Covers s d) : Covers (dictionary s) (Decoder.dictionary d) := by
  intro v admitted
  obtain ⟨ms, rfl, -, each⟩ := admits_dictionary_iff.mp admitted
  have read : ∃ ps, Decoder.eachMember d .value (Input.ofMembers ms) = .ok ps := by
    -- the members are read one by one, whatever is distinct about their keys
    clear admitted
    induction ms with
    | nil => exact ⟨[], rfl⟩
    | cons m ms ih =>
      obtain ⟨key, x⟩ := m
      obtain ⟨first, rest⟩ := List.forall_mem_cons.mp each
      obtain ⟨a, one⟩ := h x first
      obtain ⟨ps, all⟩ := ih rest
      change d .value (.ofJson x) = .ok a at one
      refine ⟨(key, a) :: ps, ?_⟩
      simp only [Input.ofMembers, Decoder.eachMember, one, all]
      rfl
  obtain ⟨ps, read⟩ := read
  refine ⟨.ofList ps, ?_⟩
  unfold Json.decode Decoder.dictionary
  simp only [Input.ofJson, read, Input.ending, syntactic]

/-! ### Records -/

variable {ms : Members} {name typeName : String}

theorem readable_map {x : Record α} {f : α → β} (h : Readable x ms) : Readable (f <$> x) ms := by
  obtain ⟨a, read⟩ := h
  exact ⟨f a, reads_map read⟩

theorem readable_seq {f : Record (α → β)} {x : Record α} (hf : Readable f ms)
    (hx : Readable x ms) : Readable (f <*> x) ms := by
  obtain ⟨g, first⟩ := hf
  obtain ⟨a, second⟩ := hx
  exact ⟨g a, reads_seq first second⟩

theorem readable_field {aliases : List String} {optional : Bool} {absent : Except DecodeError α}
    (distinct : (ms.map (·.1)).Nodup) (plain : ∀ m ∈ ms, m.1 ∉ aliases)
    (present : ∀ j, (name, j) ∈ ms → ∃ a, Json.decode d j = .ok a)
    (missing : name ∉ ms.map (·.1) → ∃ a, absent = .ok a) :
    Readable (field name aliases optional d absent) ms := by
  cases found : findValue? name ms with
  | some j =>
    obtain ⟨a, read⟩ := present j ((findValue?_eq_some_iff distinct).mp found)
    refine ⟨a, reads_field distinct plain (fun j' same => ?_) fun none => ?_⟩
    · rw [← Option.some.inj (found.symm.trans same)]
      exact read
    · simp [found] at none
  | none =>
    have away : name ∉ ms.map (·.1) := by
      intro member
      obtain ⟨m, inside, rfl⟩ := List.mem_map.mp member
      simp [findValue?_of_mem distinct inside] at found
    obtain ⟨a, read⟩ := missing away
    exact ⟨a, reads_field distinct plain (fun j same => by simp [found] at same) fun _ => read⟩

theorem readable_required (distinct : (ms.map (·.1)).Nodup)
    (values : ∀ x, (name, x) ∈ ms → Admits InRange s.toJson x) (there : name ∈ ms.map (·.1))
    (h : Covers s d) : Readable (required name d) ms :=
  readable_field distinct (by simp) (fun j member => h j (values j member))
    fun away => absurd there away

theorem readable_defaulted {value : α} (distinct : (ms.map (·.1)).Nodup)
    (values : ∀ x, (name, x) ∈ ms → Admits InRange s.toJson x) (h : Covers s d) :
    Readable (defaulted name d value) ms :=
  readable_field distinct (by simp) (fun j member => h j (values j member)) fun _ => ⟨value, rfl⟩

theorem readable_optional (distinct : (ms.map (·.1)).Nodup)
    (values : ∀ x, (name, x) ∈ ms → Admits InRange s.toJson x) (h : Covers s d.nullable) :
    Readable (optional name d) ms :=
  readable_field distinct (by simp) (fun j member => h j (values j member)) fun _ => ⟨none, rfl⟩

theorem readable_orEmpty {value : α} (distinct : (ms.map (·.1)).Nodup)
    (values : ∀ x, (name, x) ∈ ms → Admits InRange s.toJson x) (h : Covers s d) :
    Readable (orEmpty name d value) ms := by
  refine readable_field distinct (by simp) (fun j member => ?_) fun _ => ⟨value, rfl⟩
  obtain ⟨a, read⟩ := covers_option h j (values j member)
  exact ⟨a.getD value, decode_map read⟩

/-- An object that has the properties of a schema is decoded when the fields of the record can be
read. -/
theorem covers_record {ps : List (String × Schema)} {keys : List String} {r : Record α}
    (names : (ps.map (·.1)).Nodup) (h : ∀ ms, AdmitsMembers InRange ps keys ms → Readable r ms) :
    Covers (object ps keys) (r.decode typeName) := by
  intro v admitted
  obtain ⟨ms, rfl, has⟩ := (admits_object_iff names).mp admitted
  obtain ⟨a, reads⟩ := h ms has
  exact ⟨a, reads.decode typeName has.distinct⟩

theorem covers_kubernetes {ps : List (String × Schema)} {keys : List String} {r : Record α}
    (names : (ps.map (·.1)).Nodup) (h : ∀ ms, AdmitsMembers InRange ps keys ms → Readable r ms) :
    Covers (object ps keys) (r.decodeKubernetes typeName) := by
  intro v admitted
  obtain ⟨ms, rfl, has⟩ := (admits_object_iff names).mp admitted
  obtain ⟨a, reads⟩ := h ms has
  exact ⟨a, reads.decodeKubernetes typeName has.distinct⟩

end

/-! ## Types without members -/

theorem covers_port : Covers port Decoder.uint16 := by
  intro v admitted
  obtain ⟨n, rfl, -, range, -⟩ := admits_integer_iff.mp admitted
  obtain ⟨low, high⟩ := range.2 rfl
  exact ⟨_, decode_map (decode_integer "u16" low high)⟩

theorem covers_int32 {minimum : Option Int} :
    Covers (integer "int32" minimum) (Decoder.int32.map Int32.ofInt) := by
  intro v admitted
  obtain ⟨n, rfl, -, range, -⟩ := admits_integer_iff.mp admitted
  obtain ⟨low, high⟩ := range.1 rfl
  exact ⟨_, decode_map (decode_integer "i32" low high)⟩

theorem covers_optionalString : Covers optionalString (Decoder.nullable .string) :=
  covers_nullable covers_string

theorem covers_stringList : Covers stringList (Decoder.list .string) :=
  covers_withDefault (covers_list covers_string)

theorem covers_switch : Covers switch Decoder.boolean := covers_withDefault covers_boolean

theorem covers_transport : Covers transport Transport.decode :=
  covers_described (covers_choice Transport.all Transport.name)

/-! ## Compute resources -/

theorem covers_resourceClaim : Covers resourceClaim ResourceClaim.decode := by
  refine covers_described (covers_kubernetes (by decide) fun ms has => ?_)
  obtain ⟨name, request⟩ := List.forall_iff_forall_mem.mpr has.values
  refine readable_seq (readable_map ?_) ?_
  · exact readable_orEmpty has.distinct name (covers_described covers_string)
  · exact readable_optional has.distinct request (covers_option (covers_described covers_string))

theorem covers_quantities : Covers quantities (Decoder.dictionary .string) :=
  covers_dictionary (covers_described covers_string)

theorem covers_resources : Covers resourceRequirements ResourceRequirements.decode := by
  refine covers_kubernetes (by decide) fun ms has => ?_
  obtain ⟨claims, limits, requests⟩ := List.forall_iff_forall_mem.mpr has.values
  refine readable_seq (readable_seq (readable_map ?_) ?_) ?_
  · exact readable_optional has.distinct claims
      (covers_option (covers_described (covers_list covers_resourceClaim)))
  · exact readable_optional has.distinct limits
      (covers_option (covers_described covers_quantities))
  · exact readable_optional has.distinct requests
      (covers_option (covers_described covers_quantities))

/-! ## Manufacturing servers -/

theorem covers_rendezvousServer : Covers rendezvousServer RendezvousServer.decode := by
  refine covers_described (covers_record (by decide) fun ms has => ?_)
  obtain ⟨device, dns, ip, owner, protocol⟩ := List.forall_iff_forall_mem.mpr has.values
  refine readable_seq (readable_seq (readable_seq (readable_seq (readable_map ?_) ?_) ?_) ?_) ?_
  · exact readable_optional has.distinct dns covers_optionalString
  · exact readable_optional has.distinct ip covers_optionalString
  · exact readable_optional has.distinct device (covers_described (covers_nullable covers_port))
  · exact readable_optional has.distinct owner (covers_described (covers_nullable covers_port))
  · exact readable_optional has.distinct protocol (covers_nullable covers_transport)

theorem covers_diun : Covers diun Diun.decode := by
  refine covers_described (covers_record (by decide) fun ms has => ?_)
  obtain ⟨storage, key⟩ := List.forall_iff_forall_mem.mpr has.values
  refine readable_seq (readable_map ?_) ?_
  · exact readable_required has.distinct key (has.required _ (by simp))
      (covers_choice KeyType.all KeyType.name)
  · exact readable_required has.distinct storage (has.required _ (by simp))
      (covers_list (covers_choice KeyStorageType.all KeyStorageType.name))

theorem covers_protocols : Covers protocols Protocols.decode := by
  refine covers_record (by decide) fun ms has => ?_
  obtain ⟨diun, plain⟩ := List.forall_iff_forall_mem.mpr has.values
  refine readable_seq (readable_map ?_) ?_
  · exact readable_defaulted has.distinct plain covers_switch
  · exact readable_optional has.distinct diun (covers_nullable covers_diun)

theorem covers_manufacturing : Covers manufacturingSpec ManufacturingSpec.decode := by
  refine covers_described (covers_record (by decide) fun ms has => ?_)
  obtain ⟨image, level, protocols, rendezvous, replicas, resources, host, storage⟩ :=
    List.forall_iff_forall_mem.mpr has.values
  refine readable_seq (readable_seq (readable_seq (readable_seq (readable_seq (readable_seq
    (readable_seq (readable_map ?_) ?_) ?_) ?_) ?_) ?_) ?_) ?_
  · exact readable_defaulted has.distinct replicas
      (covers_described (covers_withDefault covers_int32))
  · exact readable_defaulted has.distinct image (covers_withDefault covers_string)
  · exact readable_optional has.distinct resources
      (covers_described (covers_nullable covers_resources))
  · exact readable_optional has.distinct storage (covers_described covers_optionalString)
  · exact readable_optional has.distinct host (covers_described covers_optionalString)
  · exact readable_optional has.distinct level
      (covers_nullable (covers_choice LogLevel.all LogLevel.name))
  · exact readable_required has.distinct rendezvous (has.required _ (by simp))
      (covers_list covers_rendezvousServer)
  · exact readable_defaulted has.distinct protocols (covers_withDefault covers_protocols)

/-! ## Rendezvous servers -/

theorem covers_rendezvous : Covers rendezvousSpec RendezvousSpec.decode := by
  refine covers_described (covers_record (by decide) fun ms has => ?_)
  have image := List.forall_iff_forall_mem.mpr has.values
  exact readable_map (readable_defaulted has.distinct image (covers_withDefault covers_string))

/-! ## Onboarding servers -/

theorem covers_address : Covers address Address.decode := by
  refine covers_described (covers_record (by decide) fun ms has => ?_)
  obtain ⟨dns, ip⟩ := List.forall_iff_forall_mem.mpr has.values
  refine readable_seq (readable_map ?_) ?_
  · exact readable_optional has.distinct dns covers_optionalString
  · exact readable_optional has.distinct ip covers_optionalString

theorem covers_ownerAddress : Covers ownerAddress OwnerAddress.decode := by
  refine covers_described (covers_record (by decide) fun ms has => ?_)
  obtain ⟨addresses, port, transport⟩ := List.forall_iff_forall_mem.mpr has.values
  refine readable_seq (readable_seq (readable_map ?_) ?_) ?_
  · exact readable_defaulted has.distinct transport (covers_withDefault covers_transport)
  · exact readable_defaulted has.distinct port (covers_withDefault covers_port)
  · exact readable_defaulted has.distinct addresses
      (covers_withDefault (covers_list covers_address))

theorem covers_initialUser : Covers initialUser InitialUser.decode := by
  refine covers_record (by decide) fun ms has => ?_
  obtain ⟨keys, name⟩ := List.forall_iff_forall_mem.mpr has.values
  refine readable_seq (readable_map ?_) ?_
  · exact readable_required has.distinct name (has.required _ (by simp)) covers_string
  · exact readable_defaulted has.distinct keys covers_stringList

theorem covers_command : Covers command Command.decode := by
  refine covers_record (by decide) fun ms has => ?_
  obtain ⟨args, command, may, err, out⟩ := List.forall_iff_forall_mem.mpr has.values
  refine readable_seq (readable_seq (readable_seq (readable_seq (readable_map ?_) ?_) ?_) ?_) ?_
  · exact readable_required has.distinct command (has.required _ (by simp)) covers_string
  · exact readable_defaulted has.distinct args covers_stringList
  · exact readable_defaulted has.distinct may covers_switch
  · exact readable_defaulted has.distinct out covers_switch
  · exact readable_defaulted has.distinct err covers_switch

theorem covers_binding : Covers clevisBinding ClevisBinding.decode := by
  refine covers_record (by decide) fun ms has => ?_
  obtain ⟨config, pin⟩ := List.forall_iff_forall_mem.mpr has.values
  refine readable_seq (readable_map ?_) ?_
  · exact readable_defaulted has.distinct pin (covers_withDefault covers_string)
  · exact readable_defaulted has.distinct config (covers_withDefault covers_string)

theorem covers_diskEncryption : Covers diskEncryption DiskEncryption.decode := by
  refine covers_record (by decide) fun ms has => ?_
  obtain ⟨binding, label, again⟩ := List.forall_iff_forall_mem.mpr has.values
  refine readable_seq (readable_seq (readable_map ?_) ?_) ?_
  · exact readable_required has.distinct label (has.required _ (by simp)) covers_string
  · exact readable_required has.distinct binding (has.required _ (by simp)) covers_binding
  · exact readable_defaulted has.distinct again covers_switch

/-! ### The older spelling -/

/-- A key of service information, in its present spelling. -/
def presentKey (key : String) : String :=
  if key = "diskencryptionClevis" then "diskEncryptionClevis" else key

/-- Service information with its keys in their present spelling. -/
def presentInfo : Json → Json
  | .obj ms => .obj (ms.map fun m => (presentKey m.1, m.2))
  | j => j

/-- A specification as it is spelled at present: disks are given under the name of their field. -/
def presentSpelling : Kind → Json → Json
  | .onboarding, .obj ms =>
    .obj (ms.map fun m => (m.1, if m.1 = "serviceInfo" then presentInfo m.2 else m.2))
  | _, j => j

/-- A record is decoded alike from keys that name the same fields. -/
theorem decode_sameFields {α : Type} {r : Record α} {change : String → String}
    (same : ∀ key, ruleFor r.rules (change key) = ruleFor r.rules key) (typeName : String)
    (ms : Members) : Json.decode (r.decode typeName) (.obj (ms.map fun m => (change m.1, m.2))) =
      Json.decode (r.decode typeName) (.obj ms) := by
  have checked (seen : List String) : checkMembers r.rules .value seen
      (Input.ofMembers (ms.map fun m => (change m.1, m.2))) =
        checkMembers r.rules .value seen (Input.ofMembers ms) := by
    induction ms generalizing seen with
    | nil => rfl
    | cons m ms ih => simp only [List.map_cons, Input.ofMembers, checkMembers, same, ih]
  have found : lookup r.rules (Input.ofMembers (ms.map fun m => (change m.1, m.2))) =
      lookup r.rules (Input.ofMembers ms) := by
    clear checked
    funext name
    unfold lookup
    induction ms with
    | nil => rfl
    | cons m ms ih =>
      simp only [List.map_cons, Input.ofMembers, List.find?_cons, same]
      split <;> simp_all
  unfold Json.decode Record.decode decodeMembers
  simp only [Input.ofJson, checked, found]

/-- Both spellings name one field. -/
theorem ruleFor_presentKey (key : String) :
    ruleFor ServiceInfo.record.rules (presentKey key) = ruleFor ServiceInfo.record.rules key := by
  unfold presentKey
  split
  · rename_i older
    rw [older]
    rfl
  · rfl

theorem decode_presentInfo (v : Json) :
    Json.decode ServiceInfo.decode (presentInfo v) = Json.decode ServiceInfo.decode v := by
  cases v with
  | obj ms => exact decode_sameFields ruleFor_presentKey "ServiceInfo" ms
  | _ => rfl

/-- The older spelling does not occur in what is spelled as at present. -/
theorem presentInfo_keys {v : Json} {ms : Members} (is : presentInfo v = .obj ms) :
    ∀ m ∈ ms, m.1 ∉ ["diskencryptionClevis"] := by
  cases v with
  | obj ms' =>
    cases is
    intro m member
    obtain ⟨m', -, rfl⟩ := List.mem_map.mp member
    rw [List.mem_singleton, presentKey]
    split
    · simp
    · assumption
  | _ => cases is

theorem presentInfo_eq_null {v : Json} (h : presentInfo v = .null) : v = .null := by
  cases v with
  | null => rfl
  | _ => cases h

/-- Service information is read when its keys are in their present spelling. -/
theorem decodes_serviceInfo {v : Json}
    (admitted : Admits InRange serviceInfo.toJson (presentInfo v)) :
    ∃ a, Json.decode ServiceInfo.decode v = .ok a := by
  rw [serviceInfo, admits_described_iff, admits_object_iff (by decide)] at admitted
  obtain ⟨ms, is, has⟩ := admitted
  obtain ⟨commands, disks, user⟩ := List.forall_iff_forall_mem.mpr has.values
  have readable : Readable ServiceInfo.record ms := by
    refine readable_seq (readable_seq (readable_map ?_) ?_) ?_
    · exact readable_optional has.distinct user (covers_nullable covers_initialUser)
    · exact readable_defaulted has.distinct commands (covers_list covers_command)
    · exact readable_field has.distinct (presentInfo_keys is)
        (fun j member => covers_list covers_diskEncryption j (disks j member)) fun _ => ⟨[], rfl⟩
  obtain ⟨a, reads⟩ := readable
  refine ⟨a, ?_⟩
  rw [← decode_presentInfo, is]
  exact reads.decode "ServiceInfo" has.distinct

theorem decodes_onboarding {v : Json}
    (admitted : Admits InRange onboardingSpec.toJson (presentSpelling .onboarding v)) :
    ∃ a, Json.decode OnboardingSpec.decode v = .ok a := by
  rw [onboardingSpec, admits_described_iff, admits_object_iff (by decide)] at admitted
  obtain ⟨ms', is, has⟩ := admitted
  cases v with
  | obj ms =>
    cases is
    have distinct : (ms.map (·.1)).Nodup := by
      have kept := has.distinct
      rw [List.map_map] at kept
      exact kept
    obtain ⟨addresses, image, info, infoImage⟩ := List.forall_iff_forall_mem.mpr has.values
    -- every member but one stands unchanged in what is admitted
    have kept {name : String} (x : Json) (other : name ≠ "serviceInfo") (member : (name, x) ∈ ms) :
        (name, x) ∈ ms.map fun m =>
          (m.1, if m.1 = "serviceInfo" then presentInfo m.2 else m.2) :=
      List.mem_map.mpr ⟨(name, x), member, by simp [other]⟩
    have readable : Readable OnboardingSpec.record ms := by
      refine readable_seq (readable_seq (readable_seq (readable_map ?_) ?_) ?_) ?_
      · exact readable_defaulted distinct (fun x member => image x (kept x (by decide) member))
          (covers_withDefault covers_string)
      · exact readable_defaulted distinct (fun x member => infoImage x (kept x (by decide) member))
          (covers_withDefault covers_string)
      · exact readable_defaulted distinct (fun x member => addresses x (kept x (by decide) member))
          (covers_described (covers_list covers_ownerAddress))
      · refine readable_field distinct (by simp) (fun x member => ?_) fun _ => ⟨none, rfl⟩
        refine decodes_nullable fun present => decodes_serviceInfo ?_
        have admitted := info (presentInfo x) (List.mem_map.mpr ⟨_, member, by simp⟩)
        exact (admits_nullable_iff.mp admitted).resolve_left (present ∘ presentInfo_eq_null)
    obtain ⟨a, reads⟩ := readable
    exact ⟨a, reads.decode "FdoOnboardingServerSpec" distinct⟩
  | _ => cases is

/-! ## Stored servers -/

theorem decodes_spec {kind : Kind} {v : Json}
    (admitted : Admits InRange (spec kind).toJson (presentSpelling kind v)) :
    ∃ s, Json.decode (Spec.decode kind) v = .ok s := by
  cases kind with
  | manufacturing =>
    obtain ⟨s, read⟩ := covers_manufacturing v admitted
    exact ⟨.manufacturing s, decode_map read⟩
  | onboarding =>
    obtain ⟨s, read⟩ := decodes_onboarding admitted
    exact ⟨.onboarding s, decode_map read⟩
  | rendezvous =>
    obtain ⟨s, read⟩ := covers_rendezvous v admitted
    exact ⟨.rendezvous s, decode_map read⟩

/-- The members of a stored server, whose metadata and status can be read and whose specification
is admitted by the schema `doc`. -/
structure Stored (kind : Kind) (doc : Json) (ms : Members) : Prop where
  distinct : (ms.map (·.1)).Nodup
  metadata : ∃ j m, ("metadata", j) ∈ ms ∧ Json.decode ObjectMeta.decode j = .ok m
  spec : ∃ v, ("spec", v) ∈ ms ∧ Admits InRange doc (presentSpelling kind v)
  status : ∀ j, ("status", j) ∈ ms → ∃ s, Json.decode Status.decode.nullable j = .ok s

theorem Stored.decodes {kind : Kind} {ms : Members} (h : Stored kind (Schema.spec kind).toJson ms) :
    ∃ o, Json.decode (ServerObject.decode kind) (.obj ms) = .ok o := by
  obtain ⟨j, m, hasMetadata, metadata⟩ := h.metadata
  obtain ⟨v, hasSpec, admitted⟩ := h.spec
  obtain ⟨s, spec⟩ := decodes_spec admitted
  have status : Readable (placed "status" Status.decode) ms :=
    readable_field h.distinct (by simp) h.status fun _ => ⟨none, rfl⟩
  obtain ⟨status, readsStatus⟩ := status
  have reads : Reads (ServerObject.record kind) ms ⟨m, s, status⟩ :=
    reads_seq (reads_seq
      (reads_map (reads_required h.distinct (findValue?_of_mem h.distinct hasMetadata) metadata))
      (reads_required h.distinct (findValue?_of_mem h.distinct hasSpec) spec)) readsStatus
  exact ⟨_, reads.decode kind.typeName h.distinct⟩

/-- What the published schema of a specification admits can be read, when its numbers are in the
ranges of their formats and disks under the older spelling fit the field that they stand for. So
can stored servers with such a specification, alone and in a list. -/
theorem admitted_specs_read (kind : Kind) :
    ∃ doc, publishedSpec kind = some doc ∧
      (∀ v, Admits InRange doc (presentSpelling kind v) →
        ∃ s, Json.decode (Spec.decode kind) v = .ok s) ∧
      (∀ ms, Stored kind doc ms → ∃ o, Json.decode (ServerObject.decode kind) (.obj ms) = .ok o) ∧
      ∀ l : List Members, (∀ ms ∈ l, Stored kind doc ms) → ∃ os,
        Json.decode (Decoder.list (ServerObject.decode kind)) (.arr (l.map .obj)) = .ok os := by
  refine ⟨(spec kind).toJson, publishedSpec_eq kind, fun v admitted => decodes_spec admitted,
    fun ms stored => stored.decodes, fun l stored => decodes_list fun x member => ?_⟩
  obtain ⟨ms, inside, rfl⟩ := List.mem_map.mp member
  exact (stored ms inside).decodes

/-! ### Single specifications -/

section

variable {inFormat : String → Json → Prop} {n : Int}

theorem admits_number {name : String} (range : 0 ≤ n ∧ n ≤ 9223372036854775807)
    (format : inFormat name (.int n)) :
    Admits inFormat (integer name (some 0)).toJson (.int n) := by
  refine admits_integer_iff.mpr ⟨n, rfl, by omega, format, fun low is a bound => ?_⟩
  obtain rfl : 0 = low := by simpa using is
  have zero : a = 0 := by
    simpa [boundJson, Decimal.Binary64.ofRatio?, Decimal.Binary64.zero, number?, eq_comm]
      using bound
  rw [zero]
  exact_mod_cast range.1

/-- The specification of a manufacturing server without rendezvous servers. -/
def replicated (n : Int) : Json := .obj [("rendezvousServers", .arr []), ("replicas", .int n)]

theorem admits_replicated (range : 0 ≤ n ∧ n ≤ 9223372036854775807)
    (format : inFormat "int32" (.int n)) :
    Admits inFormat manufacturingSpec.toJson (replicated n) := by
  refine admits_described_iff.mpr (admits_object (by decide) (by simp) (by simp) ?_)
  refine List.forall_mem_cons.mpr ⟨fun s property => ?_,
    List.forall_mem_singleton.mpr fun s property => ?_⟩
  · obtain rfl : s = list rendezvousServer := by simpa using property
    exact admits_list_iff.mpr ⟨[], rfl, by simp⟩
  · obtain rfl : s = ((integer "int32" (some 0)).withDefault _).described _ := by
      simpa using property
    exact admits_described_iff.mpr (admits_withDefault_iff.mpr (admits_number range format))

/-- The specification of an onboarding server with one address. -/
def addressedAt (port : Int) (info : Json) : Json :=
  .obj [("ownerAddresses", .arr [.obj [("port", .int port)]]), ("serviceInfo", info)]

theorem admits_addressedAt {info : Json} (range : 0 ≤ n ∧ n ≤ 9223372036854775807)
    (format : inFormat "uint16" (.int n))
    (described : Admits inFormat serviceInfo.nullable.toJson info) :
    Admits inFormat onboardingSpec.toJson (addressedAt n info) := by
  have address : Admits inFormat ownerAddress.toJson (.obj [("port", .int n)]) := by
    refine admits_described_iff.mpr (admits_object (by decide) (by simp) (by simp) ?_)
    refine List.forall_mem_singleton.mpr fun s property => ?_
    obtain rfl : s = port.withDefault _ := by simpa using property
    exact admits_withDefault_iff.mpr (admits_number range format)
  refine admits_described_iff.mpr (admits_object (by decide) (by simp) (by simp) ?_)
  refine List.forall_mem_cons.mpr ⟨fun s property => ?_,
    List.forall_mem_singleton.mpr fun s property => ?_⟩
  · obtain rfl : s = (list ownerAddress).described _ := by simpa using property
    refine admits_described_iff.mpr (admits_list_iff.mpr ⟨_, rfl, ?_⟩)
    exact List.forall_mem_singleton.mpr address
  · obtain rfl : s = serviceInfo.nullable := by simpa using property
    exact described

theorem admits_disks {disks : Json} (fit : Admits inFormat (list diskEncryption).toJson disks) :
    Admits inFormat serviceInfo.nullable.toJson (.obj [("diskEncryptionClevis", disks)]) := by
  refine admits_nullable_iff.mpr (.inr ?_)
  refine admits_described_iff.mpr (admits_object (by decide) (by simp) (by simp) ?_)
  refine List.forall_mem_singleton.mpr fun s property => ?_
  obtain rfl : s = list diskEncryption := by simpa using property
  exact fit

theorem admits_olderDisks (disks : Json) :
    Admits inFormat serviceInfo.nullable.toJson (.obj [("diskencryptionClevis", disks)]) := by
  refine admits_nullable_iff.mpr (.inr ?_)
  refine admits_described_iff.mpr (admits_object (by decide) (by simp) (by simp) ?_)
  refine List.forall_mem_singleton.mpr fun s property => ?_
  simp at property

end

/-- Disks under the older spelling of their field are read, also as a part of a stored server. -/
theorem admitted_specs_read_older :
    (∃ s, Json.decode (Spec.decode .onboarding)
      (addressedAt 8443 (.obj [("diskencryptionClevis", .arr [])])) = .ok s) ∧
    ∃ o, Json.decode (ServerObject.decode .onboarding)
      (.obj [("metadata", .obj []),
        ("spec", addressedAt 8443 (.obj [("diskencryptionClevis", .arr [])]))]) = .ok o := by
  obtain ⟨doc, published, specs, objects, -⟩ := admitted_specs_read .onboarding
  obtain rfl := Option.some.inj ((publishedSpec_eq .onboarding).symm.trans published)
  have disks : Admits InRange (list diskEncryption).toJson (.arr []) :=
    admits_list_iff.mpr ⟨[], rfl, by simp⟩
  have admitted : Admits InRange onboardingSpec.toJson (presentSpelling .onboarding
      (addressedAt 8443 (.obj [("diskencryptionClevis", .arr [])]))) :=
    admits_addressedAt (by decide) ⟨by simp, by simp⟩ (admits_disks disks)
  refine ⟨specs _ admitted, objects _ ?_⟩
  exact
    { distinct := by simp
      metadata := ⟨.obj [], _, by simp, rfl⟩
      spec := ⟨_, by simp, admitted⟩
      status := by simp }

/-- Numbers have no upper bound in the published schemas, and disks under the older spelling of
their field are not described there. -/
theorem admitted_specs_unread :
    (∃ doc, publishedSpec .manufacturing = some doc ∧
      Admits (fun _ _ => True) doc (replicated 2147483648) ∧
      ¬ ∃ s, Json.decode (Spec.decode .manufacturing) (replicated 2147483648) = .ok s) ∧
    (∃ doc, publishedSpec .onboarding = some doc ∧
      Admits (fun _ _ => True) doc (addressedAt 70000 .null) ∧
      ¬ ∃ s, Json.decode (Spec.decode .onboarding) (addressedAt 70000 .null) = .ok s) ∧
    ∃ doc, publishedSpec .onboarding = some doc ∧
      Admits InRange doc (addressedAt 80 (.obj [("diskencryptionClevis", .int 5)])) ∧
      ¬ ∃ s, Json.decode (Spec.decode .onboarding)
        (addressedAt 80 (.obj [("diskencryptionClevis", .int 5)])) = .ok s := by
  refine ⟨⟨_, publishedSpec_eq _, ?_, ?_⟩, ⟨_, publishedSpec_eq _, ?_, ?_⟩,
    _, publishedSpec_eq _, ?_, ?_⟩
  · exact admits_replicated (by decide) trivial
  · intro ⟨s, read⟩
    cases read
  · exact admits_addressedAt (by decide) trivial (admits_nullable_iff.mpr (.inl rfl))
  · intro ⟨s, read⟩
    cases read
  · exact admits_addressedAt (by decide) ⟨by simp, by simp⟩ (admits_olderDisks _)
  · intro ⟨s, read⟩
    cases read

end Schema

end DeviceOnboard
