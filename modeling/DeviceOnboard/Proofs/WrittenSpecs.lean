import DeviceOnboard.Kubernetes.Route
import DeviceOnboard.Proofs.StoredStatus
import DeviceOnboard.Proofs.WrittenForms
import DeviceOnboard.Server.Object

/-!
# Specifications survive being written

Each type of a specification is written in its form, with its defaults filled in and without what
is not set, and is read back as it was. A status loses only the fractions of the seconds of its
times. What is written of any value that was read is therefore a normal form of it.
-/
namespace DeviceOnboard

open DeviceOnboard.Json DeviceOnboard.Json.Record

/-! ## Resources and routes -/

namespace Kubernetes

def ResourceClaim.form : Form := .object [("name", .always, .scalar), ("request", .set, .scalar)]

theorem carries_resourceClaim (c : ResourceClaim) :
    Carries ResourceClaim.decode ResourceClaim.form c.toJson c := by
  refine carries_kubernetes "ResourceClaim" ?_ (by decide) fun distinct _ => ?_
  · exact written_one (.text c.name) <| written_opt (fun s _ => .text s) written_nil
  · have request : Reads (optional "request" .string) _ c.request :=
      reads_opt distinct (by simp) fun s _ => carries_string s
    exact reads_seq (reads_map (reads_orEmpty distinct (by simp) (carries_string c.name).back
      (Written.text _).ne_null)) request

def ResourceRequirements.form : Form :=
  .object [("claims", .set, .list ResourceClaim.form), ("limits", .set, .dictionary),
    ("requests", .set, .dictionary)]

theorem carries_resources (r : ResourceRequirements) :
    Carries ResourceRequirements.decode ResourceRequirements.form r.toJson r := by
  have items (l : List ResourceClaim) := carries_items (l := l) fun c _ => carries_resourceClaim c
  refine carries_kubernetes "ResourceRequirements" ?_ (by decide) fun distinct _ => ?_
  · exact written_opt (fun l _ => (items l).written) <|
      written_opt (fun d _ => .dictionary d) <| written_opt (fun d _ => .dictionary d) written_nil
  · have claims : Reads (optional "claims" (.list ResourceClaim.decode)) _ r.claims :=
      reads_opt distinct (by simp) fun l _ => items l
    have limits : Reads (optional "limits" (.dictionary .string)) _ r.limits :=
      reads_opt distinct (by simp) fun d _ => carries_dict d
    have requests : Reads (optional "requests" (.dictionary .string)) _ r.requests :=
      reads_opt distinct (by simp) fun d _ => carries_dict d
    exact reads_seq (reads_seq (reads_map claims) limits) requests

def RouteTarget.form : Form := .object [("kind", .always, .scalar), ("name", .always, .scalar)]

theorem carries_routeTarget (t : RouteTarget) :
    Carries RouteTarget.decode RouteTarget.form t.toJson t := by
  refine carries_record "RouteTargetReference" ?_ (by decide) fun distinct _ => ?_
  · exact written_one (.text t.kind) <| written_one (.text t.name) written_nil
  · have kind : Reads (required "kind" .string) _ t.kind :=
      reads_required distinct (by simp) (carries_string t.kind).back
    have name : Reads (required "name" .string) _ t.name :=
      reads_required distinct (by simp) (carries_string t.name).back
    exact reads_seq (reads_map kind) name

def RoutePort.form : Form := .object [("targetPort", .always, .scalar)]

theorem carries_routePort (p : RoutePort) :
    Carries RoutePort.decode RoutePort.form p.toJson p := by
  have port := carries_intOrString p.targetPort
  refine carries_record "RoutePort" ?_ (by decide) fun distinct _ => ?_
  · exact written_one port.written written_nil
  · exact reads_map (reads_required distinct (by simp) port.back)

def RouteSpec.form : Form :=
  .object [("host", .set, .scalar), ("port", .set, RoutePort.form),
    ("to", .always, RouteTarget.form), ("wildcardPolicy", .set, .scalar)]

theorem carries_routeSpec (s : RouteSpec) : Carries RouteSpec.decode RouteSpec.form s.toJson s := by
  have target := carries_routeTarget s.target
  refine carries_record "RouteSpec" ?_ (by decide) fun distinct _ => ?_
  · exact written_opt (fun t _ => .text t) <|
      written_opt (fun p _ => (carries_routePort p).written) <| written_one target.written <|
      written_opt (fun t _ => .text t) written_nil
  · have host : Reads (optional "host" .string) _ s.host :=
      reads_opt distinct (by simp) fun t _ => carries_string t
    have service : Reads (required "to" RouteTarget.decode) _ s.target :=
      reads_required distinct (by simp) target.back
    have port : Reads (optional "port" RoutePort.decode) _ s.port :=
      reads_opt distinct (by simp) fun p _ => carries_routePort p
    have policy : Reads (optional "wildcardPolicy" .string) _ s.wildcardPolicy :=
      reads_opt distinct (by simp) fun t _ => carries_string t
    exact reads_seq (reads_seq (reads_seq (reads_map host) service) port) policy

end Kubernetes

namespace Server

open DeviceOnboard.Kubernetes

/-! ## Manufacturing servers -/

theorem carries_transport (t : Transport) : Carries Transport.decode .scalar t.toJson t :=
  ⟨.text t.name, by cases t <;> rfl⟩

theorem carries_keyType (k : KeyType) : Carries KeyType.decode .scalar (.str k.name) k :=
  ⟨.text k.name, by cases k <;> rfl⟩

theorem carries_keyStorageType (k : KeyStorageType) :
    Carries KeyStorageType.decode .scalar (.str k.name) k :=
  ⟨.text k.name, by cases k <;> rfl⟩

theorem carries_logLevel (l : LogLevel) : Carries LogLevel.decode .scalar (.str l.name) l :=
  ⟨.text l.name, by cases l <;> rfl⟩

def RendezvousServer.form : Form :=
  .object [("devicePort", .set, .scalar), ("dns", .set, .scalar), ("ipAddress", .set, .scalar),
    ("ownerPort", .set, .scalar), ("protocol", .set, .scalar)]

theorem carries_rendezvousServer (s : RendezvousServer) :
    Carries RendezvousServer.decode RendezvousServer.form s.toJson s := by
  refine carries_record "RendezvousServer" ?_ (by decide) fun distinct _ => ?_
  · exact written_opt (fun n _ => .number _) <| written_opt (fun t _ => .text t) <|
      written_opt (fun t _ => .text t) <| written_opt (fun n _ => .number _) <|
      written_opt (fun t _ => .text t.name) written_nil
  · have dns : Reads (optional "dns" .string) _ s.dns :=
      reads_opt distinct (by simp) fun t _ => carries_string t
    have ip : Reads (optional "ipAddress" .string) _ s.ipAddress :=
      reads_opt distinct (by simp) fun t _ => carries_string t
    have device : Reads (optional "devicePort" .uint16) _ s.devicePort :=
      reads_opt distinct (by simp) fun n _ => carries_uint16 n
    have owner : Reads (optional "ownerPort" .uint16) _ s.ownerPort :=
      reads_opt distinct (by simp) fun n _ => carries_uint16 n
    have protocol : Reads (optional "protocol" Transport.decode) _ s.protocol :=
      reads_opt distinct (by simp) fun t _ => carries_transport t
    exact reads_seq (reads_seq (reads_seq (reads_seq (reads_map dns) ip) device) owner) protocol

def Diun.form : Form :=
  .object [("allowedKeyStorageTypes", .always, .list .scalar), ("keyType", .always, .scalar)]

theorem carries_diun (d : Diun) : Carries Diun.decode Diun.form d.toJson d := by
  have storages := carries_items (l := d.allowedKeyStorageTypes) fun k _ => carries_keyStorageType k
  refine carries_record "Diun" ?_ (by decide) fun distinct _ => ?_
  · exact written_one storages.written <| written_one (.text d.keyType.name) written_nil
  · have key : Reads (required "keyType" KeyType.decode) _ d.keyType :=
      reads_required distinct (by simp) (carries_keyType d.keyType).back
    have storage : Reads (required "allowedKeyStorageTypes" (.list KeyStorageType.decode)) _
        d.allowedKeyStorageTypes := reads_required distinct (by simp) storages.back
    exact reads_seq (reads_map key) storage

def Protocols.form : Form := .object [("diun", .set, Diun.form), ("plainDI", .always, .scalar)]

theorem carries_protocols (p : Protocols) :
    Carries Protocols.decode Protocols.form p.toJson p := by
  refine carries_record "Protocols" ?_ (by decide) fun distinct _ => ?_
  · exact written_opt (fun d _ => (carries_diun d).written) <|
      written_one (.truth p.plainDi) written_nil
  · have plain : Reads (defaulted "plainDI" .boolean false) _ p.plainDi :=
      reads_defaulted distinct (by simp) (carries_boolean p.plainDi).back
    have diun : Reads (optional "diun" Diun.decode) _ p.diun :=
      reads_opt distinct (by simp) fun d _ => carries_diun d
    exact reads_seq (reads_map plain) diun

def ManufacturingSpec.form : Form :=
  .object [("image", .always, .scalar), ("logLevel", .set, .scalar),
    ("protocols", .always, Protocols.form),
    ("rendezvousServers", .always, .list RendezvousServer.form), ("replicas", .always, .scalar),
    ("resources", .set, Kubernetes.ResourceRequirements.form), ("routeHost", .set, .scalar),
    ("storageClassName", .set, .scalar)]

theorem carries_manufacturing (s : ManufacturingSpec) :
    Carries ManufacturingSpec.decode ManufacturingSpec.form s.toJson s := by
  have protocols := carries_protocols s.protocols
  have rendezvous := carries_items (l := s.rendezvousServers) fun r _ => carries_rendezvousServer r
  refine carries_record "FdoManufacturingServerSpec" ?_ (by decide) fun distinct _ => ?_
  · exact written_one (.text s.image) <| written_opt (fun l _ => .text l.name) <|
      written_one protocols.written <| written_one rendezvous.written <|
      written_one (.number _) <|
      written_opt (fun r _ => (Kubernetes.carries_resources r).written) <|
      written_opt (fun t _ => .text t) <| written_opt (fun t _ => .text t) written_nil
  · have replicas : Reads (defaulted "replicas" (Decoder.int32.map Int32.ofInt)
        ManufacturingSpec.defaultReplicas) _ s.replicas :=
      reads_defaulted distinct (by simp) (carries_int32 s.replicas).back
    have image : Reads (defaulted "image" .string ManufacturingSpec.defaultImage) _ s.image :=
      reads_defaulted distinct (by simp) (carries_string s.image).back
    have resources : Reads (optional "resources" Kubernetes.ResourceRequirements.decode) _
        s.resources := reads_opt distinct (by simp) fun r _ => Kubernetes.carries_resources r
    have storage : Reads (optional "storageClassName" .string) _ s.storageClassName :=
      reads_opt distinct (by simp) fun t _ => carries_string t
    have host : Reads (optional "routeHost" .string) _ s.routeHost :=
      reads_opt distinct (by simp) fun t _ => carries_string t
    have level : Reads (optional "logLevel" LogLevel.decode) _ s.logLevel :=
      reads_opt distinct (by simp) fun l _ => carries_logLevel l
    have servers : Reads (required "rendezvousServers" (.list RendezvousServer.decode)) _
        s.rendezvousServers := reads_required distinct (by simp) rendezvous.back
    have protocol : Reads (defaulted "protocols" Protocols.decode
        ManufacturingSpec.defaultProtocols) _ s.protocols :=
      reads_defaulted distinct (by simp) protocols.back
    exact reads_seq (reads_seq (reads_seq (reads_seq (reads_seq (reads_seq (reads_seq
      (reads_map replicas) image) resources) storage) host) level) servers) protocol

/-! ## Rendezvous servers -/

def RendezvousSpec.form : Form := .object [("image", .always, .scalar)]

theorem carries_rendezvous (s : RendezvousSpec) :
    Carries RendezvousSpec.decode RendezvousSpec.form s.toJson s := by
  refine carries_record "FdoRendezvousServerSpec" ?_ (by decide) fun distinct _ => ?_
  · exact written_one (.text s.image) written_nil
  · exact reads_map (reads_defaulted distinct (by simp) (carries_string s.image).back)

/-! ## Onboarding servers -/

def Address.form : Form := .object [("dnsName", .set, .scalar), ("ipAddress", .set, .scalar)]

theorem carries_address (a : Address) : Carries Address.decode Address.form a.toJson a := by
  refine carries_record "Address" ?_ (by decide) fun distinct _ => ?_
  · exact written_opt (fun t _ => .text t) <| written_opt (fun t _ => .text t) written_nil
  · have dns : Reads (optional "dnsName" .string) _ a.dnsName :=
      reads_opt distinct (by simp) fun t _ => carries_string t
    have ip : Reads (optional "ipAddress" .string) _ a.ipAddress :=
      reads_opt distinct (by simp) fun t _ => carries_string t
    exact reads_seq (reads_map dns) ip

def OwnerAddress.form : Form :=
  .object [("addresses", .always, .list Address.form), ("port", .always, .scalar),
    ("transport", .always, .scalar)]

theorem carries_ownerAddress (a : OwnerAddress) :
    Carries OwnerAddress.decode OwnerAddress.form a.toJson a := by
  have addresses := carries_items (l := a.addresses) fun b _ => carries_address b
  refine carries_record "OwnerAddress" ?_ (by decide) fun distinct _ => ?_
  · exact written_one addresses.written <| written_one (.number _) <|
      written_one (.text a.transport.name) written_nil
  · have transport : Reads (defaulted "transport" Transport.decode .http) _ a.transport :=
      reads_defaulted distinct (by simp) (carries_transport a.transport).back
    have port : Reads (defaulted "port" .uint16 OwnerAddress.defaultPort) _ a.port :=
      reads_defaulted distinct (by simp) (carries_uint16 a.port).back
    have list : Reads (defaulted "addresses" (.list Address.decode) []) _ a.addresses :=
      reads_defaulted distinct (by simp) addresses.back
    exact reads_seq (reads_seq (reads_map transport) port) list

def InitialUser.form : Form :=
  .object [("sshKeys", .always, .list .scalar), ("username", .always, .scalar)]

theorem carries_initialUser (u : InitialUser) :
    Carries InitialUser.decode InitialUser.form u.toJson u := by
  have keys := carries_strings u.sshKeys
  refine carries_record "InitialUser" ?_ (by decide) fun distinct _ => ?_
  · exact written_one keys.written <| written_one (.text u.username) written_nil
  · have name : Reads (required "username" .string) _ u.username :=
      reads_required distinct (by simp) (carries_string u.username).back
    have list : Reads (defaulted "sshKeys" (.list .string) []) _ u.sshKeys :=
      reads_defaulted distinct (by simp) keys.back
    exact reads_seq (reads_map name) list

def Command.form : Form :=
  .object [("args", .always, .list .scalar), ("command", .always, .scalar),
    ("mayFail", .always, .scalar), ("returnStdErr", .always, .scalar),
    ("returnStdOut", .always, .scalar)]

theorem carries_command (c : Command) : Carries Command.decode Command.form c.toJson c := by
  have arguments := carries_strings c.args
  refine carries_record "Command" ?_ (by decide) fun distinct _ => ?_
  · exact written_one arguments.written <| written_one (.text c.command) <|
      written_one (.truth c.mayFail) <| written_one (.truth c.returnStderr) <|
      written_one (.truth c.returnStdout) written_nil
  · have command : Reads (required "command" .string) _ c.command :=
      reads_required distinct (by simp) (carries_string c.command).back
    have args : Reads (defaulted "args" (.list .string) []) _ c.args :=
      reads_defaulted distinct (by simp) arguments.back
    have may : Reads (defaulted "mayFail" .boolean false) _ c.mayFail :=
      reads_defaulted distinct (by simp) (carries_boolean c.mayFail).back
    have out : Reads (defaulted "returnStdOut" .boolean false) _ c.returnStdout :=
      reads_defaulted distinct (by simp) (carries_boolean c.returnStdout).back
    have err : Reads (defaulted "returnStdErr" .boolean false) _ c.returnStderr :=
      reads_defaulted distinct (by simp) (carries_boolean c.returnStderr).back
    exact reads_seq (reads_seq (reads_seq (reads_seq (reads_map command) args) may) out) err

def ClevisBinding.form : Form := .object [("config", .always, .scalar), ("pin", .always, .scalar)]

theorem carries_binding (b : ClevisBinding) :
    Carries ClevisBinding.decode ClevisBinding.form b.toJson b := by
  refine carries_record "ClevisBinding" ?_ (by decide) fun distinct _ => ?_
  · exact written_one (.text b.config) <| written_one (.text b.pin) written_nil
  · have pin : Reads (defaulted "pin" .string "") _ b.pin :=
      reads_defaulted distinct (by simp) (carries_string b.pin).back
    have config : Reads (defaulted "config" .string "") _ b.config :=
      reads_defaulted distinct (by simp) (carries_string b.config).back
    exact reads_seq (reads_map pin) config

def DiskEncryption.form : Form :=
  .object [("binding", .always, ClevisBinding.form), ("diskLabel", .always, .scalar),
    ("reencrypt", .always, .scalar)]

theorem carries_diskEncryption (d : DiskEncryption) :
    Carries DiskEncryption.decode DiskEncryption.form d.toJson d := by
  have binding := carries_binding d.binding
  refine carries_record "DiskEncryptionClevis" ?_ (by decide) fun distinct _ => ?_
  · exact written_one binding.written <| written_one (.text d.diskLabel) <|
      written_one (.truth d.reencrypt) written_nil
  · have label : Reads (required "diskLabel" .string) _ d.diskLabel :=
      reads_required distinct (by simp) (carries_string d.diskLabel).back
    have bound : Reads (required "binding" ClevisBinding.decode) _ d.binding :=
      reads_required distinct (by simp) binding.back
    have again : Reads (defaulted "reencrypt" .boolean false) _ d.reencrypt :=
      reads_defaulted distinct (by simp) (carries_boolean d.reencrypt).back
    exact reads_seq (reads_seq (reads_map label) bound) again

def ServiceInfo.form : Form :=
  .object [("commands", .filled, .list Command.form),
    ("diskEncryptionClevis", .filled, .list DiskEncryption.form),
    ("initialUser", .set, InitialUser.form)]

theorem carries_serviceInfo (s : ServiceInfo) :
    Carries ServiceInfo.decode ServiceInfo.form s.toJson s := by
  refine carries_record "ServiceInfo" ?_ (by decide) fun distinct known => ?_
  · exact written_many (fun c _ => (carries_command c).written) <|
      written_many (fun d _ => (carries_diskEncryption d).written) <|
      written_opt (fun u _ => (carries_initialUser u).written) written_nil
  · have user : Reads (optional "initialUser" InitialUser.decode) _ s.initialUser :=
      reads_opt distinct (by simp) fun u _ => carries_initialUser u
    have commands : Reads (defaulted "commands" (.list Command.decode) []) _ s.commands :=
      reads_many distinct (by simp) (by simp) (carries_items fun c _ => carries_command c)
    -- the older spelling of the field is never written
    have older : ∀ key ∈ ["commands", "diskEncryptionClevis", "initialUser"],
        key ∉ ["diskencryptionClevis"] := by decide
    have disks : Reads (field "diskEncryptionClevis" ["diskencryptionClevis"] true
        (.list DiskEncryption.decode) (.ok [])) _ s.diskEncryption :=
      reads_many distinct (fun m member => older m.1 (known m member)) (by simp)
        (carries_items fun d _ => carries_diskEncryption d)
    exact reads_seq (reads_seq (reads_map user) commands) disks

def OnboardingSpec.form : Form :=
  .object [("ownerAddresses", .filled, .list OwnerAddress.form),
    ("ownerOnboardingImage", .always, .scalar), ("serviceInfo", .set, ServiceInfo.form),
    ("serviceInfoImage", .always, .scalar)]

theorem carries_onboarding (s : OnboardingSpec) :
    Carries OnboardingSpec.decode OnboardingSpec.form s.toJson s := by
  refine carries_record "FdoOnboardingServerSpec" ?_ (by decide) fun distinct _ => ?_
  · exact written_many (fun a _ => (carries_ownerAddress a).written) <|
      written_one (.text s.ownerOnboardingImage) <|
      written_opt (fun i _ => (carries_serviceInfo i).written) <|
      written_one (.text s.serviceInfoImage) written_nil
  · have image : Reads (defaulted "ownerOnboardingImage" .string
        OnboardingSpec.defaultOnboardingImage) _ s.ownerOnboardingImage :=
      reads_defaulted distinct (by simp) (carries_string s.ownerOnboardingImage).back
    have infoImage : Reads (defaulted "serviceInfoImage" .string
        OnboardingSpec.defaultServiceInfoImage) _ s.serviceInfoImage :=
      reads_defaulted distinct (by simp) (carries_string s.serviceInfoImage).back
    have addresses : Reads (defaulted "ownerAddresses" (.list OwnerAddress.decode) []) _
        s.ownerAddresses :=
      reads_many distinct (by simp) (by simp) (carries_items fun a _ => carries_ownerAddress a)
    have info : Reads (optional "serviceInfo" ServiceInfo.decode) _ s.serviceInfo :=
      reads_opt distinct (by simp) fun i _ => carries_serviceInfo i
    exact reads_seq (reads_seq (reads_seq (reads_map image) infoImage) addresses) info

/-! ## Normal forms -/

/-- What is written of a value that was read has a form, is read as the value after `cut`, and is
written in the same way again. -/
structure Normalizes {α : Type} (d : Decoder α) (form : Form) (write : α → Json) (cut : α → α) :
    Prop where
  form : ∀ j a, Json.decode d j = .ok a → Written form (write a)
  back : ∀ j a, Json.decode d j = .ok a → Json.decode d (write a) = .ok (cut a)
  again : ∀ j a, Json.decode d j = .ok a → write (cut a) = write a

theorem normalizes {α : Type} {d : Decoder α} {form : Form} {write : α → Json}
    (carries : ∀ a, Carries d form (write a) a) : Normalizes d form write id where
  form _ a _ := (carries a).written
  back _ a _ := (carries a).back
  again _ _ _ := rfl

theorem toJson_storedCondition {c : Condition} (legible : c.lastTransitionTime.Legible) :
    (storedCondition c).toJson = c.toJson := by
  simp only [Condition.toJson, storedCondition, Time.text_stored legible.nanos]

theorem toJson_storedStatus {s : Status}
    (legible : ∀ c ∈ s.conditions, c.lastTransitionTime.Legible) :
    (storedStatus s).toJson = s.toJson := by
  have same : s.conditions.map (Condition.toJson ∘ storedCondition) =
      s.conditions.map Condition.toJson :=
    List.map_congr_left fun c member => toJson_storedCondition (legible c member)
  simp [Status.toJson, storedStatus, Members.many, same]

theorem normalizes_status : Normalizes Status.decode Status.form Status.toJson storedStatus where
  form _ _ read := (carries_status (legible_of_status read)).written
  back _ _ read := (carries_status (legible_of_status read)).back
  again _ _ read := toJson_storedStatus (legible_of_status read)

/-- Specifications of all kinds and those of routes are read back from what is written of them, and
so is a status whose times have years of four digits, but for the fractions of their seconds. What
is written of any value that was read is its normal form. -/
theorem specifications_read_back :
    (∀ s : ManufacturingSpec, Json.decode ManufacturingSpec.decode s.toJson = .ok s) ∧
    (∀ s : OnboardingSpec, Json.decode OnboardingSpec.decode s.toJson = .ok s) ∧
    (∀ s : RendezvousSpec, Json.decode RendezvousSpec.decode s.toJson = .ok s) ∧
    (∀ s : RouteSpec, Json.decode RouteSpec.decode s.toJson = .ok s) ∧
    (∀ s : Status, (∀ c ∈ s.conditions, c.lastTransitionTime.Storable) →
      Json.decode Status.decode s.toJson = .ok (storedStatus s)) ∧
    Normalizes ManufacturingSpec.decode ManufacturingSpec.form ManufacturingSpec.toJson id ∧
    Normalizes OnboardingSpec.decode OnboardingSpec.form OnboardingSpec.toJson id ∧
    Normalizes RendezvousSpec.decode RendezvousSpec.form RendezvousSpec.toJson id ∧
    Normalizes RouteSpec.decode RouteSpec.form RouteSpec.toJson id ∧
    Normalizes Status.decode Status.form Status.toJson storedStatus := by
  refine ⟨fun s => (carries_manufacturing s).back, fun s => (carries_onboarding s).back,
    fun s => (carries_rendezvous s).back, fun s => (carries_routeSpec s).back,
    fun s storable => (carries_status fun c member => (storable c member).legible).back,
    normalizes carries_manufacturing, normalizes carries_onboarding, normalizes carries_rendezvous,
    normalizes carries_routeSpec, normalizes_status⟩

/-- A status from half a second after midnight is read back with midnight. -/
theorem specifications_read_back_midnight :
    Json.decode Status.decode
        (Status.toJson ⟨[], [⟨"Ready", "True", "Succeeded", "", none, ⟨86400, 500000000⟩⟩]⟩) =
      .ok ⟨[], [⟨"Ready", "True", "Succeeded", "", none, ⟨86400, 0⟩⟩]⟩ := by
  have storable : Time.Storable ⟨86400, 500000000⟩ := ⟨by decide, by decide, by decide⟩
  have all := specifications_read_back.2.2.2.2.1
    ⟨[], [⟨"Ready", "True", "Succeeded", "", none, ⟨86400, 500000000⟩⟩]⟩
  exact all fun c member => by rw [List.mem_singleton.mp member]; exact storable

end Server

end DeviceOnboard
