import DeviceOnboard.Proofs.AddressText
import DeviceOnboard.Proofs.ConfigErrors
import DeviceOnboard.Proofs.YamlDocuments

/-!
# Addresses are written in one form

However an address is spelled in a description, configurations hold its canonical text, and this
text is a spelling of the address. So two spellings lead to the same configuration just if they
denote the same address of the same family, and a configuration is built again from its own
addresses.
-/
namespace DeviceOnboard.HostAddress

open Config

variable {target target' s : String} {dns ip : Option String} {a : Ip} {h : HostAddress}

theorem ofFields_ip_iff : ofFields target dns (some s) = .ok (.ip a) ↔
    Text.field? dns = none ∧ Ip.ofText? (Text.trim s) = some a := by
  have blank : Ip.ofText? "" = none := rfl
  have field : Text.field? (some s) = if Text.trim s = "" then none else some (Text.trim s) := rfl
  unfold ofFields
  rw [field]
  by_cases empty : Text.trim s = ""
  · cases Text.field? dns <;> simp [empty, blank]
  · cases Text.field? dns with
    | some name => simp [empty]
    | none => cases found : Ip.ofText? (Text.trim s) <;> simp [empty, found]

/-- The text of an address is a spelling of this address. -/
theorem ofFields_text (a : Ip) (unset : Text.field? dns = none) :
    ofFields target dns (some a.text) = .ok (.ip a) := by
  rw [ofFields_ip_iff, Text.trim_text]
  exact ⟨unset, a.ofText?_text⟩

theorem field?_of_field? {field : Option String} {name : String}
    (h : Text.field? field = some name) : Text.field? (some name) = some name := by
  cases field with
  | none => cases h
  | some s =>
    simp only [Text.field?, Option.map_some, Option.ite_none_left_eq_some] at h ⊢
    obtain ⟨nonempty, same⟩ := h
    obtain rfl := Option.some.inj same
    rw [Text.trim_trim]
    exact ⟨nonempty, rfl⟩

/-- A host that was read is read again from its own fields. -/
theorem ofFields_own (read : ofFields target dns ip = .ok h) :
    ofFields target' h.dnsName? (h.ip?.map Ip.text) = .ok h := by
  cases h with
  | ip a => exact ofFields_text a rfl
  | dns name =>
    have given : Text.field? dns = some name := by
      cases ofFields_eq_iff.mp read with
      | dns holds => exact Text.field?_eq_some_iff.mpr holds
    have own : Text.field? (HostAddress.dns name).dnsName? = some name := field?_of_field? given
    have unset : Text.field? ((HostAddress.dns name).ip?.map Ip.text) = none := rfl
    rw [ofFields, own, unset]

end DeviceOnboard.HostAddress

namespace DeviceOnboard.Config

open DeviceOnboard.Server

/-! ## Lists of addresses -/

section

variable {α β ε : Type} {f : α → Except ε β}

/-- Where an item is replaced, its result is, and the others stay as they are. -/
theorem mapM_replace {a : α} {front back : List α} {l : List β}
    (h : (front ++ a :: back).mapM f = .ok l) :
    ∃ before b after, l = before ++ b :: after ∧ f a = .ok b ∧
      ∀ a' b', f a' = .ok b' → (front ++ a' :: back).mapM f = .ok (before ++ b' :: after) := by
  rw [mapM_ok_iff] at h
  simp only [mapM_ok_iff]
  induction front generalizing l with
  | nil =>
    obtain ⟨b, after, first, rest, rfl⟩ := List.forall₂_cons_left_iff.mp h
    exact ⟨[], b, after, rfl, first, fun _ _ first' => .cons first' rest⟩
  | cons x front ih =>
    obtain ⟨y, l', first, rest, rfl⟩ := List.forall₂_cons_left_iff.mp h
    obtain ⟨before, b, after, rfl, read, others⟩ := ih rest
    exact ⟨y :: before, b, after, rfl, read, fun _ _ read' => .cons first (others _ _ read')⟩

/-- If each result is read again from what it says itself, then so are all of them. -/
theorem mapM_own (own : β → α) (again : ∀ a b, f a = .ok b → f (own b) = .ok b)
    {l : List α} {l' : List β} (h : l.mapM f = .ok l') : (l'.map own).mapM f = .ok l' := by
  rw [mapM_ok_iff] at h ⊢
  induction h with
  | nil => exact .nil
  | cons first _ ih => exact .cons (again _ _ first) ih

theorem map_own_ne_nil {own : β → α} {l : List α} {l' : List β} (h : l.mapM f = .ok l')
    (nonempty : l ≠ []) : l'.map own ≠ [] := by
  rw [← List.length_pos_iff] at nonempty ⊢
  rwa [List.length_map, ← (mapM_ok_iff.mp h).length_eq]

end

/-! ## Manufacturing servers -/

/-- A rendezvous server as its entry describes it. -/
def RendezvousEntry.server (e : RendezvousEntry) : RendezvousServer :=
  ⟨e.host.dnsName?, e.host.ip?.map Ip.text, e.devicePort, e.ownerPort, e.protocol⟩

namespace RendezvousEntry

variable {r : RendezvousServer} {e : RendezvousEntry} {s : String} {a b : Ip}

theorem ofServer_own (h : ofServer r = .ok e) : ofServer e.server = .ok e := by
  obtain ⟨host, read, rfl⟩ := map_ok_iff.mp h
  exact map_ok_iff.mpr ⟨host, HostAddress.ofFields_own read, rfl⟩

theorem ofServer_ip (unset : Text.field? r.dns = none)
    (address : Ip.ofText? (Text.trim s) = some a) :
    ofServer { r with ipAddress := some s } =
      .ok ⟨.ip a, r.devicePort, r.ownerPort, r.protocol⟩ :=
  map_ok_iff.mpr ⟨.ip a, HostAddress.ofFields_ip_iff.mpr ⟨unset, address⟩, rfl⟩

theorem toYaml_ip_eq_iff {d o : Option UInt16} {p : Option Transport} :
    toYaml ⟨.ip a, d, o, p⟩ = toYaml ⟨.ip b, d, o, p⟩ ↔ a = b := by
  constructor
  · intro same
    simp only [toYaml, Yaml.record, Yaml.Entries.opt, HostAddress.dnsName?, HostAddress.ip?,
      List.flatten_cons, List.nil_append, List.cons_append, Yaml.map.injEq, List.cons.injEq] at same
    exact Ip.text_injective (by simpa using same)
  · rintro rfl
    rfl

end RendezvousEntry

namespace ManufacturingConfig

variable {spec : ManufacturingSpec} {c c' : ManufacturingConfig}

theorem ofSpec_ok_iff : ofSpec spec = .ok c ↔ spec.rendezvousServers ≠ [] ∧
    spec.rendezvousServers.mapM RendezvousEntry.ofServer = .ok c.rendezvousServers ∧
      checkDiun spec.protocols.diun = .ok c.diun ∧ c.plainDi = spec.protocols.plainDi := by
  unfold ofSpec
  by_cases empty : spec.rendezvousServers = []
  · simp [empty]
  · rw [if_neg empty]
    obtain ⟨servers, plainDi, diun⟩ := c
    cases spec.rendezvousServers.mapM RendezvousEntry.ofServer <;>
      cases checkDiun spec.protocols.diun <;>
      simp [empty, bind, Except.bind, pure, Except.pure, and_comm, eq_comm]

/-- A configuration is built again from the addresses that it holds. -/
theorem ofSpec_own (h : ofSpec spec = .ok c) :
    ofSpec { spec with rendezvousServers := c.rendezvousServers.map RendezvousEntry.server } =
      .ok c := by
  obtain ⟨nonempty, servers, diun, plainDi⟩ := ofSpec_ok_iff.mp h
  have again := mapM_own RendezvousEntry.server (fun _ _ => RendezvousEntry.ofServer_own) servers
  exact ofSpec_ok_iff.mpr ⟨map_own_ne_nil servers nonempty, again, diun, plainDi⟩

theorem text_eq_iff : c.text = c'.text ↔ c.toYaml = c'.toYaml := by
  constructor
  · intro same
    have read := ofText?_manufacturing c
    rw [same, ofText?_manufacturing] at read
    exact (Option.some.inj read).symm
  · intro same
    rw [text, same, text]

/-- Another rendezvous server in the place of one shows in the text just if its entry does. -/
theorem ofSpec_replace {r r' : RendezvousServer} {e e' : RendezvousEntry}
    (read : RendezvousEntry.ofServer r = .ok e) (read' : RendezvousEntry.ofServer r' = .ok e')
    {front back : List RendezvousServer}
    (h : ofSpec { spec with rendezvousServers := front ++ r :: back } = .ok c) :
    ∃ c', ofSpec { spec with rendezvousServers := front ++ r' :: back } = .ok c' ∧
      (c.text = c'.text ↔ e.toYaml = e'.toYaml) := by
  obtain ⟨-, servers, diun, plainDi⟩ := ofSpec_ok_iff.mp h
  obtain ⟨before, e₁, after, entries, entry, others⟩ := mapM_replace servers
  obtain rfl : e = e₁ := Except.ok.inj (read.symm.trans entry)
  refine ⟨{ c with rendezvousServers := before ++ e' :: after },
    ofSpec_ok_iff.mpr ⟨by simp, others _ _ read', diun, plainDi⟩, ?_⟩
  rw [text_eq_iff]
  simp [toYaml, Yaml.record, Yaml.Entries.one, entries]

end ManufacturingConfig

/-! ## Onboarding servers -/

namespace OwnerEntry

/-- A host as its entry describes it. -/
def ownHost (h : HostAddress) : Address := ⟨h.dnsName?, h.ip?.map Ip.text⟩

/-- The address of an owner as its entry describes it. -/
def address (e : OwnerEntry) : OwnerAddress := ⟨e.transport, e.port, e.hosts.map ownHost⟩

variable {address address' : OwnerAddress} {e : OwnerEntry} {a b : Ip}

theorem ofAddress_ok_iff : ofAddress address = .ok e ↔ address.addresses ≠ [] ∧
    (address.addresses.mapM fun h => HostAddress.ofFields "owner address" h.dnsName h.ipAddress) =
      .ok e.hosts ∧ e.transport = address.transport ∧ e.port = address.port := by
  unfold ofAddress
  by_cases empty : address.addresses = []
  · simp [empty]
  · rw [if_neg empty, map_ok_iff]
    constructor
    · rintro ⟨hosts, read, rfl⟩
      exact ⟨empty, read, rfl, rfl⟩
    · rintro ⟨-, read, transport, port⟩
      exact ⟨e.hosts, read, by rw [← transport, ← port]⟩

theorem ofAddress_own (h : ofAddress address = .ok e) : ofAddress e.address = .ok e := by
  obtain ⟨nonempty, hosts, -, -⟩ := ofAddress_ok_iff.mp h
  have again := mapM_own ownHost (fun _ _ => HostAddress.ofFields_own) hosts
  exact ofAddress_ok_iff.mpr ⟨map_own_ne_nil hosts nonempty, again, rfl, rfl⟩

theorem hostYaml_ip_eq_iff : hostYaml (.ip a) = hostYaml (.ip b) ↔ a = b := by
  constructor
  · intro same
    simp only [hostYaml, Yaml.record, Yaml.Entries.opt, HostAddress.dnsName?, HostAddress.ip?,
      List.flatten_cons, List.nil_append, List.cons_append, Yaml.map.injEq, List.cons.injEq] at same
    exact Ip.text_injective (by simpa using same)
  · rintro rfl
    rfl

end OwnerEntry

namespace OnboardingConfig

variable {spec : OnboardingSpec} {routeHost : Option String} {c c' : OnboardingConfig}

theorem ofSpec_addresses (some : spec.ownerAddresses ≠ []) :
    ofSpec spec routeHost = .ok c ↔
      spec.ownerAddresses.mapM OwnerEntry.ofAddress = .ok c.ownerEntries := by
  rw [ofSpec_of_addresses some, map_ok_iff]
  constructor
  · rintro ⟨entries, read, rfl⟩
    exact read
  · exact fun read => ⟨c.ownerEntries, read, rfl⟩

theorem ofRoute_own {host : String} (nonempty : host ≠ "") (trimmed : Text.trim host = host) :
    OwnerEntry.ofAddress (OwnerEntry.ofRoute host).address = .ok (.ofRoute host) := by
  have field : Text.field? (some host) = some host := by
    simp [Text.field?, trimmed, nonempty]
  have read : HostAddress.ofFields "owner address" (some host) none = .ok (.dns host) := by
    rw [HostAddress.ofFields, field]
    rfl
  have hosts := mapM_ok_iff.mpr (.cons read .nil)
  exact OwnerEntry.ofAddress_ok_iff.mpr ⟨List.cons_ne_nil _ _, hosts, rfl, rfl⟩

/-- A configuration is built again from the addresses that it holds, whatever the route. -/
theorem ofSpec_own (h : ofSpec spec routeHost = .ok c)
    (own : spec.ownerAddresses = [] → ∀ host ∈ routeHost, Text.trim host = host)
    (otherHost : Option String) :
    ofSpec { spec with ownerAddresses := c.ownerEntries.map OwnerEntry.address } otherHost =
      .ok c := by
  by_cases empty : spec.ownerAddresses = []
  · rw [ofSpec, if_pos empty] at h
    split at h
    · rename_i host given
      obtain ⟨set, nonempty⟩ := Option.filter_eq_some_iff.mp given
      obtain rfl := Except.ok.inj h
      have again := ofRoute_own (by simpa using nonempty) (own empty host set)
      exact (ofSpec_addresses (List.cons_ne_nil _ _)).mpr (mapM_ok_iff.mpr (.cons again .nil))
    · cases h
  · have read := (ofSpec_addresses empty).mp h
    have again := mapM_own OwnerEntry.address (fun _ _ => OwnerEntry.ofAddress_own) read
    exact (ofSpec_addresses (map_own_ne_nil read empty)).mpr again

theorem text_eq_iff : c.text = c'.text ↔ c.toYaml = c'.toYaml := by
  constructor
  · intro same
    have read := ofText?_onboarding c
    rw [same, ofText?_onboarding] at read
    exact (Option.some.inj read).symm
  · intro same
    rw [text, same, text]

/-- Another address in the place of one shows in the text just if its host does. -/
theorem ofSpec_replace {x x' : Address} {host host' : HostAddress}
    (read : HostAddress.ofFields "owner address" x.dnsName x.ipAddress = .ok host)
    (read' : HostAddress.ofFields "owner address" x'.dnsName x'.ipAddress = .ok host')
    {front back : List OwnerAddress} {transport : Transport} {port : UInt16}
    {before after : List Address}
    (h : ofSpec { spec with
      ownerAddresses := front ++ ⟨transport, port, before ++ x :: after⟩ :: back } routeHost =
        .ok c) :
    ∃ c', ofSpec { spec with
        ownerAddresses := front ++ ⟨transport, port, before ++ x' :: after⟩ :: back } routeHost =
          .ok c' ∧
      (c.text = c'.text ↔ OwnerEntry.hostYaml host = OwnerEntry.hostYaml host') := by
  obtain ⟨front', e, back', entries, entry, otherEntries⟩ :=
    mapM_replace ((ofSpec_addresses (by simp)).mp h)
  obtain ⟨-, hosts, ownTransport, ownPort⟩ := OwnerEntry.ofAddress_ok_iff.mp entry
  obtain ⟨before', h₁, after', parts, given, otherHosts⟩ := mapM_replace hosts
  obtain rfl : host = h₁ := Except.ok.inj (read.symm.trans given)
  let e' : OwnerEntry := { e with hosts := before' ++ host' :: after' }
  have entry' : OwnerEntry.ofAddress ⟨transport, port, before ++ x' :: after⟩ = .ok e' :=
    OwnerEntry.ofAddress_ok_iff.mpr ⟨by simp, otherHosts _ _ read', ownTransport, ownPort⟩
  refine ⟨⟨front' ++ e' :: back'⟩,
    (ofSpec_addresses (by simp)).mpr (otherEntries _ _ entry'), ?_⟩
  rw [text_eq_iff]
  simp [toYaml, Yaml.record, Yaml.Entries.one, entries, OwnerEntry.toYaml, parts, e']

end OnboardingConfig

/-! ## Spellings -/

/-- However an address is spelled where it is accepted, configurations hold its canonical text: it
is not empty, nothing of it is trimmed, and it is accepted in turn as the same address, of the same
family. Configurations are built again from the addresses that they hold. Another accepted spelling
in the place of one leads to the same text of the configuration just if it denotes the same
address. -/
theorem spelled_addresses_canonical {target target' s s' : String} {dns dns' : Option String}
    {a a' : Ip} (read : HostAddress.ofFields target dns (some s) = .ok (.ip a))
    (read' : HostAddress.ofFields target' dns' (some s') = .ok (.ip a')) :
    (∀ b : Ip, b.text ≠ "" ∧ Text.trim b.text = b.text ∧ ∀ target dns, Text.field? dns = none →
      HostAddress.ofFields target dns (some b.text) = .ok (.ip b)) ∧
    (∀ r : RendezvousServer, Text.field? r.dns = none →
      (RendezvousEntry.ofServer { r with ipAddress := some s }).map RendezvousEntry.toYaml =
        .ok (.record
          [.one "ipaddress" (.str a.text), .opt "device_port" r.devicePort fun n => .int n.toNat,
            .opt "owner_port" r.ownerPort fun n => .int n.toNat,
            .opt "protocol" r.protocol fun t => .str t.name])) ∧
    (∀ dns, Text.field? dns = none →
      (HostAddress.ofFields "owner address" dns (some s)).map OwnerEntry.hostYaml =
        .ok (.record [.one "ip_address" (.str a.text)])) ∧
    (∀ spec c, ManufacturingConfig.ofSpec spec = .ok c → ManufacturingConfig.ofSpec
      { spec with rendezvousServers := c.rendezvousServers.map RendezvousEntry.server } = .ok c) ∧
    (∀ spec routeHost c, OnboardingConfig.ofSpec spec routeHost = .ok c →
      (spec.ownerAddresses = [] → ∀ host ∈ routeHost, Text.trim host = host) →
        ∀ otherHost, OnboardingConfig.ofSpec
          { spec with ownerAddresses := c.ownerEntries.map OwnerEntry.address } otherHost = .ok c) ∧
    (a.text = a'.text ↔ a = a') ∧
    (∀ (spec : ManufacturingSpec) front (r : RendezvousServer) back c, Text.field? r.dns = none →
      ManufacturingConfig.ofSpec { spec with
        rendezvousServers := front ++ { r with ipAddress := some s } :: back } = .ok c →
      ∃ c', ManufacturingConfig.ofSpec { spec with
          rendezvousServers := front ++ { r with ipAddress := some s' } :: back } = .ok c' ∧
        (c.text = c'.text ↔ a = a')) ∧
    ∀ (spec : OnboardingSpec) routeHost front transport port before dns after back c,
      Text.field? dns = none →
      OnboardingConfig.ofSpec { spec with
        ownerAddresses :=
          front ++ ⟨transport, port, before ++ ⟨dns, some s⟩ :: after⟩ :: back } routeHost =
            .ok c →
      ∃ c', OnboardingConfig.ofSpec { spec with
          ownerAddresses :=
            front ++ ⟨transport, port, before ++ ⟨dns, some s'⟩ :: after⟩ :: back } routeHost =
              .ok c' ∧
        (c.text = c'.text ↔ a = a') := by
  have address := (HostAddress.ofFields_ip_iff.mp read).2
  have address' := (HostAddress.ofFields_ip_iff.mp read').2
  have fields {target dns} (unset : Text.field? dns = none) :
      HostAddress.ofFields target dns (some s) = .ok (.ip a) :=
    HostAddress.ofFields_ip_iff.mpr ⟨unset, address⟩
  have fields' {target dns} (unset : Text.field? dns = none) :
      HostAddress.ofFields target dns (some s') = .ok (.ip a') :=
    HostAddress.ofFields_ip_iff.mpr ⟨unset, address'⟩
  refine ⟨fun b => ⟨b.text_ne_empty, Text.trim_text b, fun _ _ => HostAddress.ofFields_text b⟩,
    fun r unset => ?_, fun dns unset => ?_, fun _ _ => ManufacturingConfig.ofSpec_own,
    fun _ _ _ => OnboardingConfig.ofSpec_own, ⟨Ip.text_injective, congrArg Ip.text⟩,
    fun spec front r back c unset h => ?_,
    fun spec routeHost front transport port before dns after back c unset h => ?_⟩
  · rw [RendezvousEntry.ofServer_ip unset address]
    rfl
  · rw [fields unset]
    rfl
  · obtain ⟨c', built, same⟩ := ManufacturingConfig.ofSpec_replace
      (RendezvousEntry.ofServer_ip unset address) (RendezvousEntry.ofServer_ip unset address') h
    exact ⟨c', built, same.trans RendezvousEntry.toYaml_ip_eq_iff⟩
  · have other : HostAddress.ofFields "owner address" (Address.mk dns (some s')).dnsName
        (Address.mk dns (some s')).ipAddress = .ok (.ip a') := fields' unset
    obtain ⟨c', built, same⟩ := OnboardingConfig.ofSpec_replace (fields unset) other h
    exact ⟨c', built, same.trans OwnerEntry.hostYaml_ip_eq_iff⟩

/-- A mapped address keeps its family, so it is not the IPv4 address that it maps. -/
theorem spelled_addresses_canonical_mapped :
    HostAddress.ofFields "owner address" (some " ") (some " ::FFFF:0a00:0001\n") =
        .ok (.ip (.v6 #v[0, 0, 0, 0, 0, 0xFFFF, 0x0A00, 1])) ∧
      HostAddress.ofFields "owner address" none (some "10.0.0.1") = .ok (.ip (.v4 10 0 0 1)) ∧
      (HostAddress.ofFields "owner address" none (some " ::FFFF:0a00:0001\n")).map
        OwnerEntry.hostYaml = .ok (.record [.one "ip_address" (.str "::ffff:10.0.0.1")]) ∧
      (Ip.v6 #v[0, 0, 0, 0, 0, 0xFFFF, 0x0A00, 1]).text ≠ (Ip.v4 10 0 0 1).text := by
  have read : HostAddress.ofFields "owner address" (some " ") (some " ::FFFF:0a00:0001\n") =
      .ok (.ip (.v6 #v[0, 0, 0, 0, 0, 0xFFFF, 0x0A00, 1])) := rfl
  have read' : HostAddress.ofFields "owner address" none (some "10.0.0.1") =
      .ok (.ip (.v4 10 0 0 1)) := rfl
  obtain ⟨-, -, written, -, -, texts, -⟩ := spelled_addresses_canonical read read'
  exact ⟨read, read', written none rfl, fun same => by cases texts.mp same⟩

end DeviceOnboard.Config
