import DeviceOnboard.Admission.Validation
import DeviceOnboard.Config.ServiceInfo
import DeviceOnboard.Proofs.CheckedLists
import DeviceOnboard.Proofs.DecodedMembers
import DeviceOnboard.Proofs.HostFields

/-!
# Which configuration is built

The configuration of a server is a translation of its addresses, item by item and in their order.
Where something is wrong, the first problem decides the error. Here both are told for all
descriptions, along with what the documents hold in the end and with what does not count. The
configuration for service information has no addresses, and holds what is done on a device.
-/
namespace DeviceOnboard

namespace Yaml

/-- The value of a document under a path of keys. -/
def under? : List String → Yaml → Option Yaml
  | [], y => some y
  | key :: path, .map entries => (findValue? key entries).bind (under? path)
  | _ :: _, _ => none

theorem findValue?_opt {α : Type} (name key : String) (value : Option α) (write : α → Yaml) :
    findValue? name (Entries.opt key value write) =
      if key = name then value.map write else none := by
  cases value with
  | none => simp [Entries.opt, findValue?_nil]
  | some a => simp [Entries.opt, findValue?_cons, findValue?_nil]

theorem findValue?_many {α : Type} (name key : String) (items : List α) (write : α → Yaml) :
    findValue? name (Entries.many key items write) =
      if key = name ∧ items ≠ [] then some (.seq (items.map write)) else none := by
  cases items with
  | nil => simp [Entries.many, findValue?_nil]
  | cons a items => simp [Entries.many, findValue?_cons, findValue?_nil]

/-- Under a path of keys stands a list with an item for each of some things, in their order.
Without any of them there is no list. -/
structure ItemsUnder {α : Type} (path : List String) (writes : α → Yaml → Prop) (l : List α)
    (y : Yaml) : Prop where
  unset : l = [] → y.under? path = none
  each : l ≠ [] → ∃ items, y.under? path = some (.seq items) ∧ List.Forall₂ writes l items

theorem itemsUnder_of_written {α : Type} {path : List String} {writes : α → Yaml → Prop}
    {l : List α} {y : Yaml} (write : α → Yaml)
    (found : y.under? path = if l ≠ [] then some (.seq (l.map write)) else none)
    (written : ∀ a, writes a (write a)) : ItemsUnder path writes l y where
  unset empty := by rw [found, if_neg (not_not_intro empty)]
  each some := by
    refine ⟨_, found.trans (if_pos some), ?_⟩
    rw [List.forall₂_map_right_iff]
    exact List.forall₂_same.mpr fun a _ => written a

end Yaml

namespace Config

open DeviceOnboard.HostAddress DeviceOnboard.Ip.Grammar DeviceOnboard.Server DeviceOnboard.Text

/-! ## Manufacturing servers -/

/-- What a rendezvous server comes to. -/
inductive ReadsServer (r : RendezvousServer) : Except Error RendezvousEntry → Prop where
  | refused {e : Error} (fields : Resolves "rendezvous server" r.dns r.ipAddress (.error e)) :
      ReadsServer r (.error e)
  | entry {host : HostAddress}
      (fields : Resolves "rendezvous server" r.dns r.ipAddress (.ok host)) :
      ReadsServer r (.ok ⟨host, r.devicePort, r.ownerPort, r.protocol⟩)

theorem ofServer_eq_iff (r : RendezvousServer) (result : Except Error RendezvousEntry) :
    RendezvousEntry.ofServer r = result ↔ ReadsServer r result := by
  unfold RendezvousEntry.ofServer
  constructor
  · rintro rfl
    cases fields : ofFields "rendezvous server" r.dns r.ipAddress with
    | error e => exact .refused (ofFields_eq_iff.mp fields)
    | ok host => exact .entry (ofFields_eq_iff.mp fields)
  · intro h
    cases h with
    | refused fields => rw [ofFields_eq_iff.mpr fields]; rfl
    | entry fields => rw [ofFields_eq_iff.mpr fields]; rfl

/-- What the description of a manufacturing server comes to. Whether there are rendezvous servers
comes first, then the first of them that is refused, and then the key settings. -/
inductive BuildsManufacturing (s : ManufacturingSpec) : Except Error ManufacturingConfig → Prop where
  | noServers (none : s.rendezvousServers = []) : BuildsManufacturing s (.error .noRendezvousServers)
  | badServer {e : Error} (first : Collects ReadsServer s.rendezvousServers (.error e)) :
      BuildsManufacturing s (.error e)
  | noStorage {entries : List RendezvousEntry} {d : Diun} (some : s.rendezvousServers ≠ [])
      (servers : Collects ReadsServer s.rendezvousServers (.ok entries))
      (diun : d ∈ s.protocols.diun) (none : d.allowedKeyStorageTypes = []) :
      BuildsManufacturing s (.error .noKeyStorageTypes)
  | built {entries : List RendezvousEntry} (some : s.rendezvousServers ≠ [])
      (servers : Collects ReadsServer s.rendezvousServers (.ok entries))
      (storage : ∀ d ∈ s.protocols.diun, d.allowedKeyStorageTypes ≠ []) :
      BuildsManufacturing s (.ok ⟨entries, s.protocols.plainDi, s.protocols.diun⟩)

theorem checkDiun_eq_ok {diun : Option Diun} (storage : ∀ d ∈ diun, d.allowedKeyStorageTypes ≠ []) :
    ManufacturingConfig.checkDiun diun = .ok diun := by
  cases diun with
  | none => rfl
  | some d => rw [ManufacturingConfig.checkDiun, if_neg (storage d rfl)]

theorem checkDiun_eq_error {diun : Option Diun} {d : Diun} (set : d ∈ diun)
    (none : d.allowedKeyStorageTypes = []) :
    ManufacturingConfig.checkDiun diun = .error .noKeyStorageTypes := by
  obtain rfl := set
  rw [ManufacturingConfig.checkDiun, if_pos none]

namespace ManufacturingConfig

variable {s : ManufacturingSpec} {r : Except Error ManufacturingConfig}

theorem builds_ofSpec (s : ManufacturingSpec) : BuildsManufacturing s (ofSpec s) := by
  unfold ofSpec
  by_cases empty : s.rendezvousServers = []
  · rw [if_pos empty]
    exact .noServers empty
  rw [if_neg empty]
  cases servers : s.rendezvousServers.mapM RendezvousEntry.ofServer with
  | error e => exact .badServer ((mapM_eq_iff ofServer_eq_iff).mp servers)
  | ok entries =>
    have read := (mapM_eq_iff ofServer_eq_iff).mp servers
    by_cases storage : ∀ d ∈ s.protocols.diun, d.allowedKeyStorageTypes ≠ []
    · simp only [bind, Except.bind, checkDiun_eq_ok storage]
      exact .built empty read storage
    · push Not at storage
      obtain ⟨d, set, none⟩ := storage
      simp only [bind, Except.bind, checkDiun_eq_error set none]
      exact .noStorage empty read set none

theorem ofSpec_of_builds (h : BuildsManufacturing s r) : ofSpec s = r := by
  unfold ofSpec
  cases h with
  | noServers none => rw [if_pos none]
  | badServer first =>
    rw [if_neg first.ne_nil, (mapM_eq_iff ofServer_eq_iff).mpr first]
    rfl
  | noStorage some servers diun none =>
    rw [if_neg some, (mapM_eq_iff ofServer_eq_iff).mpr servers]
    simp only [bind, Except.bind, checkDiun_eq_error diun none]
  | built some servers storage =>
    rw [if_neg some, (mapM_eq_iff ofServer_eq_iff).mpr servers]
    simp only [bind, Except.bind, checkDiun_eq_ok storage]
    rfl

theorem ofSpec_eq_iff : ofSpec s = r ↔ BuildsManufacturing s r :=
  ⟨fun h => h ▸ builds_ofSpec s, ofSpec_of_builds⟩

end ManufacturingConfig

/-- What is written of a rendezvous server besides its address. -/
def serverSettings (r : RendezvousServer) : List Yaml.Entries :=
  [.opt "device_port" r.devicePort fun n => .int n.toNat,
    .opt "owner_port" r.ownerPort fun n => .int n.toNat,
    .opt "protocol" r.protocol fun t => .str t.name]

/-- What is written of a rendezvous server: one address, which is a trimmed name or the canonical
text of an IP address, and the other settings as they are given. -/
inductive WritesServer (r : RendezvousServer) : Yaml → Prop where
  | dns {name : String} (given : Holds r.dns name) (unset : Unset r.ipAddress) :
      WritesServer r (.record (.one "dns" (.str name) :: serverSettings r))
  | ip {address : String} {a : Ip} (unset : Unset r.dns) (given : Holds r.ipAddress address)
      (spelled : Spells address.toList a) :
      WritesServer r (.record (.one "ipaddress" (.str a.text) :: serverSettings r))

theorem writesServer_toYaml {r : RendezvousServer} {e : RendezvousEntry}
    (read : ReadsServer r (.ok e)) : WritesServer r e.toYaml := by
  cases read with
  | entry fields =>
    cases fields with
    | dns given unset => exact .dns given unset
    | ip unset given spelled => exact .ip unset given spelled

/-- For all descriptions of manufacturing servers:

- the outcome is the one that follows from the rendezvous servers and the key settings, where an
  earlier problem hides all later ones;
- a document that is built has one entry for each rendezvous server, in their order, and has the
  protocols and the key settings as they are given;
- nothing else of the description counts. -/
theorem manufacturing_built (s : ManufacturingSpec) :
    (∀ r, ManufacturingConfig.ofSpec s = r ↔ BuildsManufacturing s r) ∧
    (∀ c, ManufacturingConfig.ofSpec s = .ok c →
      (∃ items, c.toYaml.under? ["rendezvous_info"] = some (.seq items) ∧
        List.Forall₂ WritesServer s.rendezvousServers items) ∧
      c.toYaml.under? ["protocols", "plain_di"] = some (.bool s.protocols.plainDi) ∧
      (c.toYaml.under? ["protocols", "diun"]).isSome = s.protocols.diun.isSome ∧
      ∀ d ∈ s.protocols.diun,
        c.toYaml.under? ["protocols", "diun", "key_type"] = some (.str d.keyType.name) ∧
        c.toYaml.under? ["protocols", "diun", "allowed_key_storage_types"] =
          some (.strings (d.allowedKeyStorageTypes.map KeyStorageType.name))) ∧
    ∀ s' : ManufacturingSpec, s'.rendezvousServers = s.rendezvousServers →
      s'.protocols = s.protocols → ManufacturingConfig.ofSpec s' = ManufacturingConfig.ofSpec s := by
  refine ⟨fun r => ManufacturingConfig.ofSpec_eq_iff, fun c h => ?_, fun s' servers protocols => ?_⟩
  · cases ManufacturingConfig.ofSpec_eq_iff.mp h with
    | @built entries some servers storage =>
      refine ⟨⟨entries.map RendezvousEntry.toYaml, rfl, ?_⟩, rfl, ?_, ?_⟩
      · rw [List.forall₂_map_right_iff]
        exact servers.forall₂.imp fun _ _ => writesServer_toYaml
      · cases s.protocols.diun <;> rfl
      · rintro d set
        rw [Option.mem_def.mp set]
        exact ⟨rfl, rfl⟩
  · unfold ManufacturingConfig.ofSpec
    rw [servers, protocols]

/-- The second rendezvous server is refused before the missing storage types are. -/
example : ManufacturingConfig.ofSpec ⟨1, "", none, none, none, none,
    [⟨some "rv.example", none, none, none, none⟩, ⟨some "rv.example", some "::", none, none, none⟩],
    ⟨false, some ⟨.secp256r1, []⟩⟩⟩ = .error (.bothAddresses "rendezvous server") := rfl

/-! ## Onboarding servers -/

/-- What the address of a host comes to. -/
def ReadsHost (h : Address) : Except Error HostAddress → Prop :=
  Resolves "owner address" h.dnsName h.ipAddress

/-- What the addresses of an owner over one transport come to. -/
inductive ReadsAddress (a : OwnerAddress) : Except Error OwnerEntry → Prop where
  | empty (none : a.addresses = []) : ReadsAddress a (.error (.emptyOwnerAddress a.transport))
  | refused {e : Error} (first : Collects ReadsHost a.addresses (.error e)) :
      ReadsAddress a (.error e)
  | entry {hosts : List HostAddress} (some : a.addresses ≠ [])
      (each : Collects ReadsHost a.addresses (.ok hosts)) :
      ReadsAddress a (.ok ⟨a.transport, a.port, hosts⟩)

theorem hosts_eq_iff (l : List Address) (r : Except Error (List HostAddress)) :
    (l.mapM fun h => ofFields "owner address" h.dnsName h.ipAddress) = r ↔
      Collects ReadsHost l r :=
  mapM_eq_iff fun _ _ => ofFields_eq_iff

theorem ofAddress_eq_iff (a : OwnerAddress) (r : Except Error OwnerEntry) :
    OwnerEntry.ofAddress a = r ↔ ReadsAddress a r := by
  unfold OwnerEntry.ofAddress
  constructor
  · rintro rfl
    split
    · rename_i empty
      exact .empty empty
    rename_i some
    cases hosts : a.addresses.mapM fun h => ofFields "owner address" h.dnsName h.ipAddress with
    | error e => exact .refused ((hosts_eq_iff _ _).mp hosts)
    | ok hosts' => exact .entry some ((hosts_eq_iff _ _).mp hosts)
  · intro h
    cases h with
    | empty none => rw [if_pos none]
    | refused first => rw [if_neg first.ne_nil, (hosts_eq_iff _ _).mpr first]; rfl
    | entry some each => rw [if_neg some, (hosts_eq_iff _ _).mpr each]; rfl

theorem ownerEntries_eq_iff {l : List OwnerAddress} {r : Except Error (List OwnerEntry)} :
    ownerEntries l = r ↔ Collects ReadsAddress l r :=
  mapM_eq_iff ofAddress_eq_iff

/-- What the description of an onboarding server comes to, beside the host of its route. -/
inductive BuildsOnboarding (s : OnboardingSpec) (routeHost : Option String) :
    Except Error OnboardingConfig → Prop where
  | route {host : String} (none : s.ownerAddresses = []) (given : routeHost = some host)
      (nonempty : host ≠ "") :
      BuildsOnboarding s routeHost (.ok ⟨[⟨.http, 80, [.dns host]⟩]⟩)
  | nowhere (none : s.ownerAddresses = []) (unset : routeHost = Option.none ∨ routeHost = some "") :
      BuildsOnboarding s routeHost (.error .noOwnerAddresses)
  | refused {e : Error} (first : Collects ReadsAddress s.ownerAddresses (.error e)) :
      BuildsOnboarding s routeHost (.error e)
  | built {entries : List OwnerEntry} (some : s.ownerAddresses ≠ [])
      (each : Collects ReadsAddress s.ownerAddresses (.ok entries)) :
      BuildsOnboarding s routeHost (.ok ⟨entries⟩)

theorem filter_host_eq_none_iff {host : Option String} :
    host.filter (· ≠ "") = none ↔ host = none ∨ host = some "" := by
  cases host <;> simp

namespace OnboardingConfig

variable {s : OnboardingSpec} {routeHost : Option String} {r : Except Error OnboardingConfig}

theorem builds_ofSpec (s : OnboardingSpec) (routeHost : Option String) :
    BuildsOnboarding s routeHost (ofSpec s routeHost) := by
  unfold ofSpec
  split
  · rename_i empty
    split
    · rename_i host given
      obtain ⟨set, nonempty⟩ := Option.filter_eq_some_iff.mp given
      exact .route empty set (by simpa using nonempty)
    · rename_i unset
      exact .nowhere empty (filter_host_eq_none_iff.mp unset)
  · rename_i some
    cases entries : Config.ownerEntries s.ownerAddresses with
    | error e => exact .refused (ownerEntries_eq_iff.mp entries)
    | ok l => exact .built some (ownerEntries_eq_iff.mp entries)

theorem ofSpec_of_builds (h : BuildsOnboarding s routeHost r) : ofSpec s routeHost = r := by
  unfold ofSpec
  cases h with
  | @route host none given nonempty =>
    have kept : routeHost.filter (· ≠ "") = some host := by simp [given, nonempty]
    rw [if_pos none, kept]
    rfl
  | nowhere none unset => rw [if_pos none, filter_host_eq_none_iff.mpr unset]
  | refused first => rw [if_neg first.ne_nil, ownerEntries_eq_iff.mpr first]; rfl
  | built some each => rw [if_neg some, ownerEntries_eq_iff.mpr each]; rfl

theorem ofSpec_eq_iff : ofSpec s routeHost = r ↔ BuildsOnboarding s routeHost r :=
  ⟨fun h => h ▸ builds_ofSpec s routeHost, ofSpec_of_builds⟩

/-- With owner addresses of its own a server needs no route. -/
theorem ofSpec_of_addresses (some : s.ownerAddresses ≠ []) (routeHost : Option String) :
    ofSpec s routeHost = (Config.ownerEntries s.ownerAddresses).map OnboardingConfig.mk :=
  if_neg some

end OnboardingConfig

/-- The webhook checks the owner addresses as they are checked for a configuration. -/
theorem validate_onboarding (s : OnboardingSpec) : Admission.validate (.onboarding s) =
    ((ownerEntries s.ownerAddresses).map fun _ => ()).mapError .config := by
  cases entries : ownerEntries s.ownerAddresses <;>
    simp [Admission.validate, entries, Except.map, Except.mapError]

/-- What is written of the address of a host, in the same forms as for a rendezvous server. -/
inductive WritesHost (h : Address) : Yaml → Prop where
  | dns {name : String} (given : Holds h.dnsName name) (unset : Unset h.ipAddress) :
      WritesHost h (.map [("dns_name", .str name)])
  | ip {address : String} {a : Ip} (unset : Unset h.dnsName) (given : Holds h.ipAddress address)
      (spelled : Spells address.toList a) : WritesHost h (.map [("ip_address", .str a.text)])

/-- What is written of the addresses of an owner over one transport. -/
inductive WritesAddress (a : OwnerAddress) : Yaml → Prop where
  | entry {hosts : List Yaml} (each : List.Forall₂ WritesHost a.addresses hosts) :
      WritesAddress a (.map [("transport", .str a.transport.name), ("port", .int a.port.toNat),
        ("addresses", .seq hosts)])

theorem writesHost_hostYaml {h : Address} {host : HostAddress} (read : ReadsHost h (.ok host)) :
    WritesHost h (OwnerEntry.hostYaml host) := by
  cases read with
  | dns given unset => exact .dns given unset
  | ip unset given spelled => exact .ip unset given spelled

theorem writesAddress_toYaml {a : OwnerAddress} {e : OwnerEntry} (read : ReadsAddress a (.ok e)) :
    WritesAddress a e.toYaml := by
  cases read with
  | entry some each =>
    refine .entry ?_
    rw [List.forall₂_map_right_iff]
    exact each.forall₂.imp fun _ _ => writesHost_hostYaml

/-- For all descriptions of onboarding servers and all hosts of a route:

- the outcome is the one that follows from the owner addresses, where the first problem decides,
  and without any from the host of the route;
- a document that is built has one entry for each owner address, in their order, or one for the
  route;
- with owner addresses the route does not count, and the webhook comes to the same verdict with the
  same error;
- nothing else of the description counts. -/
theorem onboarding_built (s : OnboardingSpec) (routeHost : Option String) :
    (∀ r, OnboardingConfig.ofSpec s routeHost = r ↔ BuildsOnboarding s routeHost r) ∧
    (∀ c, OnboardingConfig.ofSpec s routeHost = .ok c →
      ∃ items, c.toYaml.under? ["owner_addresses"] = some (.seq items) ∧
        if s.ownerAddresses = [] then
          ∃ host ∈ routeHost, host ≠ "" ∧ items = [.map [("transport", .str "http"),
            ("port", .int 80), ("addresses", .seq [.map [("dns_name", .str host)]])]]
        else List.Forall₂ WritesAddress s.ownerAddresses items) ∧
    (s.ownerAddresses ≠ [] →
      (∀ otherHost, OnboardingConfig.ofSpec s otherHost = OnboardingConfig.ofSpec s routeHost) ∧
      ownerEntries s.ownerAddresses =
        (OnboardingConfig.ofSpec s routeHost).map OnboardingConfig.ownerEntries ∧
      Admission.validate (.onboarding s) =
        ((OnboardingConfig.ofSpec s routeHost).map fun _ => ()).mapError .config) ∧
    ∀ s' : OnboardingSpec, s'.ownerAddresses = s.ownerAddresses →
      OnboardingConfig.ofSpec s' routeHost = OnboardingConfig.ofSpec s routeHost := by
  refine ⟨fun r => OnboardingConfig.ofSpec_eq_iff, fun c h => ?_, fun some => ?_, fun s' same => ?_⟩
  · cases OnboardingConfig.ofSpec_eq_iff.mp h with
    | @route host none given nonempty =>
      refine ⟨_, rfl, ?_⟩
      rw [if_pos none]
      exact ⟨host, given, nonempty, rfl⟩
    | @built entries some each =>
      refine ⟨entries.map OwnerEntry.toYaml, rfl, ?_⟩
      rw [if_neg some, List.forall₂_map_right_iff]
      exact each.forall₂.imp fun _ _ => writesAddress_toYaml
  · simp only [OnboardingConfig.ofSpec_of_addresses some, validate_onboarding]
    cases ownerEntries s.ownerAddresses <;> exact ⟨fun _ => trivial, rfl, rfl⟩
  · unfold OnboardingConfig.ofSpec
    rw [same]

/-- The address without hosts comes first, so it decides and not the host that is refused. -/
example : OnboardingConfig.ofSpec
    ⟨"", "", [⟨.http, 80, [⟨some "a", none⟩]⟩, ⟨.tcp, 80, []⟩, ⟨.tls, 80, [⟨none, none⟩]⟩], none⟩
      (some "fdo.example") = .error (.emptyOwnerAddress .tcp) := rfl

/-! ## Servers for service information -/

structure WritesUser (u : InitialUser) (y : Yaml) : Prop where
  username : y.under? ["username"] = some (.str u.username)
  sshKeys : y.under? ["sshkeys"] = some (.strings u.sshKeys)

structure WritesFile (f : DeviceFile) (y : Yaml) : Prop where
  path : y.under? ["path"] = some (.str f.path)
  permissions : y.under? ["permissions"] = f.permissions.map .str
  source : y.under? ["source_path"] = some (.str f.sourcePath)

structure WritesCommand (c : Command) (y : Yaml) : Prop where
  command : y.under? ["command"] = some (.str c.command)
  args : y.under? ["args"] = some (.strings c.args)
  mayFail : y.under? ["may_fail"] = some (.bool c.mayFail)
  stdout : y.under? ["return_stdout"] = some (.bool c.returnStdout)
  stderr : y.under? ["return_stderr"] = some (.bool c.returnStderr)

structure WritesDisk (d : DiskEncryption) (y : Yaml) : Prop where
  label : y.under? ["disk_label"] = some (.str d.diskLabel)
  pin : y.under? ["binding", "pin"] = some (.str d.binding.pin)
  config : y.under? ["binding", "config"] = some (.str d.binding.config)
  reencrypt : y.under? ["reencrypt"] = some (.bool d.reencrypt)

/-- What is written of service information and files: the user if there is one, and the files, the
commands and the disks in their order, and nothing else. -/
structure WritesServiceInfo (info : Option ServiceInfo) (files : List DeviceFile) (y : Yaml) :
    Prop where
  user : Option.Rel WritesUser (info.bind (·.initialUser))
    (y.under? ["service_info", "initial_user"])
  files : y.ItemsUnder ["service_info", "files"] WritesFile files
  commands : y.ItemsUnder ["service_info", "commands"] WritesCommand
    ((info.map (·.commands)).getD [])
  disks : y.ItemsUnder ["service_info", "diskencryption_clevis"] WritesDisk
    ((info.map (·.diskEncryption)).getD [])
  others : ∀ key ∉ ["initial_user", "files", "commands", "diskencryption_clevis"],
    y.under? ["service_info", key] = none

namespace ServiceInfoConfig

theorem ofSpec_eq (info : Option ServiceInfo) (files : List DeviceFile) : ofSpec info files =
    ⟨info.bind (·.initialUser), files, (info.map (·.commands)).getD [],
      (info.map (·.diskEncryption)).getD []⟩ := by
  cases info <;> rfl

/-- The entries for service information, by their keys. -/
theorem under?_serviceInfo (c : ServiceInfoConfig) (key : String) :
    c.toYaml.under? ["service_info", key] =
      ((if "initial_user" = key then c.initialUser.map userYaml else none).or <|
        (if "files" = key ∧ c.files ≠ [] then some (.seq (c.files.map fileYaml)) else none).or <|
        (if "commands" = key ∧ c.commands ≠ [] then some (.seq (c.commands.map commandYaml))
          else none).or <|
        if "diskencryption_clevis" = key ∧ c.diskEncryption ≠ [] then
          some (.seq (c.diskEncryption.map diskYaml)) else none) := by
  show (findValue? key (List.flatten _)).bind some = _
  rw [Option.bind_fun_some]
  simp only [List.flatten_cons, List.flatten_nil, List.append_nil, findValue?_append,
    Yaml.findValue?_opt, Yaml.findValue?_many]

end ServiceInfoConfig

/-- A configuration for service information holds this information and all files. -/
theorem writesServiceInfo_ofSpec (info : Option ServiceInfo) (files : List DeviceFile) :
    WritesServiceInfo info files (ServiceInfoConfig.ofSpec info files).toYaml := by
  rw [ServiceInfoConfig.ofSpec_eq]
  constructor
  case user =>
    rw [ServiceInfoConfig.under?_serviceInfo]
    cases info.bind (·.initialUser) with
    | none => simp
    | some u => exact .some ⟨rfl, rfl⟩
  case files =>
    refine Yaml.itemsUnder_of_written ServiceInfoConfig.fileYaml ?_ fun f => ?_
    · simp [ServiceInfoConfig.under?_serviceInfo]
    · obtain ⟨configMap, path, permissions, source⟩ := f
      cases permissions <;> exact ⟨rfl, rfl, rfl⟩
  case commands =>
    refine Yaml.itemsUnder_of_written ServiceInfoConfig.commandYaml ?_ fun c => ?_
    · simp [ServiceInfoConfig.under?_serviceInfo]
    · exact ⟨rfl, rfl, rfl, rfl, rfl⟩
  case disks =>
    refine Yaml.itemsUnder_of_written ServiceInfoConfig.diskYaml ?_ fun d => ?_
    · simp [ServiceInfoConfig.under?_serviceInfo]
    · exact ⟨rfl, rfl, rfl, rfl⟩
  case others =>
    intro key other
    simp only [List.mem_cons, List.not_mem_nil, or_false, not_or] at other
    simp [ServiceInfoConfig.under?_serviceInfo, Ne.symm other.1, Ne.symm other.2.1,
      Ne.symm other.2.2.1, Ne.symm other.2.2.2]

end Config

end DeviceOnboard
