import DeviceOnboard.Config.Manufacturing
import DeviceOnboard.Config.Onboarding
import DeviceOnboard.Config.Rendezvous
import DeviceOnboard.Config.ServiceInfo
import DeviceOnboard.Proofs.YamlNodes

/-!
# Configurations are read back

Whatever strings a description, a route or a configuration map holds, the configuration that a
server is given is read as the document it was written from: no string adds, changes or hides an
entry, and none is taken for something that is not a string.
-/
namespace DeviceOnboard.Yaml

/-! ## Documents -/

theorem isReadable_of_isPrintable {c : Char} (prints : isPrintable c) : isReadable c := by
  simp [isReadable, prints]

theorem normalizeBreaks_of_prints {cs : List Char} (prints : cs.all isPrintable) :
    normalizeBreaks cs = cs := by
  induction cs with
  | nil => rfl
  | cons c cs ih =>
    simp only [List.all_cons, Bool.and_eq_true] at prints
    have noReturn : c ≠ '\r' := by
      rintro rfl
      exact absurd prints.1 (by decide)
    have noNextLine : c ≠ '\x85' := by
      rintro rfl
      exact absurd prints.1 (by decide)
    rw [normalizeBreaks]
    · simp [noReturn, noNextLine, ih prints.2]
    · intro ds isReturn
      exact absurd isReturn noReturn

/-- A mapping is read back from its text. -/
theorem ofText?_map {entries : Entries} (nonempty : entries ≠ []) (keys : ∀ e ∈ entries, IsKey e.1)
    (distinct : (entries.map Prod.fst).Nodup) (each : ∀ e ∈ entries, ReadsBack e.2) :
    ofText? (Yaml.map entries).text = some (.map entries) := by
  have prints := entriesText_prints 0 keys each [] rfl
  have readable : (entriesText 0 [] entries).all isReadable := by
    rw [List.all_eq_true] at prints ⊢
    exact fun c member => isReadable_of_isPrintable (prints c member)
  have start : toToken 0 true false (entriesText 0 [] entries) =
      ⟨0, true, entriesText 0 [] entries⟩ := by
    match entries, nonempty with
    | (key, v) :: entries, _ =>
      obtain ⟨c, cs, letters, alpha⟩ := (keys _ List.mem_cons_self).first
      rw [entriesText_cons, letters]
      exact toToken_token (startsToken_of_start (.inr alpha)) 0 true _
  have noLine : (afterBreak []).isLine 0 = false := by decide
  have read := readNode_entries (.done : Tail 0 []) noLine nonempty keys distinct each
    (Nat.zero_le 0) (Nat.le_succ (entriesText 0 [] entries).length)
  rw [List.append_nil] at read
  have text : (Yaml.map entries).text.toList = entriesText 0 [] entries := by
    rw [Yaml.text, String.toList_ofList]
  simp only [ofText?, text]
  rw [if_pos readable, normalizeBreaks_of_prints prints, start, read]
  rfl

example : ofText? "a: x y  # z\nb:\n  - 'it''s'\n  - 007\n" =
    some (.map [("a", .str "x y"), ("b", .seq [.str "it's", .str "007"])]) := by cbv

example : ofText? "a: b: c\n" = none := by cbv

/-! ## Records -/

/-- Groups of entries whose keys are among the names, in their order. -/
structure Covers (names : List String) (groups : List Entries) : Prop where
  keys : List.Sublist (groups.flatten.map Prod.fst) names
  values : ∀ e ∈ groups.flatten, ReadsBack e.2

theorem covers_nil : Covers [] [] := ⟨.slnil, by simp⟩

section

variable {names : List String} {groups : List Entries}

theorem covers_one {key : String} {v : Yaml} (reads : ReadsBack v) (rest : Covers names groups) :
    Covers (key :: names) (.one key v :: groups) where
  keys := rest.keys.cons_cons _
  values := by
    simpa [Entries.one, reads] using rest.values

theorem covers_none {key : String} (rest : Covers names groups) :
    Covers (key :: names) ([] :: groups) where
  keys := rest.keys.cons _
  values := rest.values

theorem covers_opt {key : String} {α : Type} {value : Option α} {write : α → Yaml}
    (reads : ∀ a, ReadsBack (write a)) (rest : Covers names groups) :
    Covers (key :: names) (.opt key value write :: groups) := by
  cases value with
  | none => exact covers_none rest
  | some a => exact covers_one (reads a) rest

theorem covers_many {key : String} {α : Type} {items : List α} {write : α → Yaml}
    (reads : ∀ a, ReadsBack (write a)) (rest : Covers names groups) :
    Covers (key :: names) (.many key items write :: groups) := by
  unfold Entries.many
  split
  · exact covers_none rest
  · exact covers_one (readsBack_list (by simpa using fun a _ => reads a)) rest

theorem readsBack_record (covers : Covers names groups) (distinct : names.Nodup)
    (keys : ∀ name ∈ names, IsIdentifier name) : ReadsBack (.record groups) :=
  readsBack_map (fun _ member => (keys _ (covers.keys.mem (List.mem_map_of_mem member))).isKey)
    (covers.keys.nodup distinct) covers.values

theorem ofText?_record (covers : Covers names groups) (distinct : names.Nodup)
    (keys : ∀ name ∈ names, IsIdentifier name) (nonempty : groups.flatten ≠ []) :
    ofText? (Yaml.record groups).text = some (.record groups) :=
  ofText?_map nonempty
    (fun _ member => (keys _ (covers.keys.mem (List.mem_map_of_mem member))).isKey)
    (covers.keys.nodup distinct) covers.values

end

theorem readsBack_variant {name : String} (identifier : IsIdentifier name) {content : Yaml}
    (reads : ReadsBack content) : ReadsBack (.variant name content) :=
  readsBack_map (by simpa using identifier.isKey) (by simp) (by simpa using reads)

theorem readsBack_strings (l : List String) : ReadsBack (.strings l) :=
  readsBack_list (by simpa using fun s _ => readsBack_string s)

theorem readsBack_port (n : UInt16) : ReadsBack (.int n.toNat) :=
  readsBack_nat (Nat.lt_of_lt_of_le n.toNat_lt (by decide))

end DeviceOnboard.Yaml

namespace DeviceOnboard.Config

open DeviceOnboard.Yaml

theorem readsBack_directoryStore (path : String) : ReadsBack (directoryStore path) :=
  readsBack_variant (by decide) <|
    readsBack_record (covers_one (readsBack_string path) covers_nil) (by decide) (by decide)

/-! ## Manufacturing servers -/

theorem readsBack_rendezvousEntry (e : RendezvousEntry) : ReadsBack e.toYaml :=
  readsBack_record
    (covers_opt readsBack_string <| covers_opt (fun _ => readsBack_string _) <|
      covers_opt readsBack_port <| covers_opt readsBack_port <|
      covers_opt (fun _ => readsBack_string _) covers_nil)
    (by decide) (by decide)

theorem readsBack_diun (d : Server.Diun) : ReadsBack (ManufacturingConfig.diunYaml d) :=
  readsBack_record
    (covers_one (readsBack_string _) <| covers_one (readsBack_string _) <|
      covers_one (readsBack_string _) <| covers_one (readsBack_string _) <|
      covers_one (readsBack_strings _) covers_nil)
    (by decide) (by decide)

theorem ofText?_manufacturing (c : ManufacturingConfig) : ofText? c.text = some c.toYaml := by
  refine ofText?_record (covers_one (readsBack_directoryStore _) <|
    covers_one (readsBack_directoryStore _) <| covers_one (readsBack_directoryStore _) <|
    covers_one (readsBack_string _) <| covers_one ?entries <| covers_one ?protocols <|
    covers_one ?keys covers_nil) (by decide) (by decide) (by simp [Entries.one])
  case entries => exact readsBack_list (by simpa using fun e _ => readsBack_rendezvousEntry e)
  case protocols =>
    exact readsBack_record (covers_one (readsBack_bool _) <| covers_opt readsBack_diun covers_nil)
      (by decide) (by decide)
  case keys =>
    exact readsBack_record
      (covers_one (readsBack_string _) <| covers_one (readsBack_string _) <|
        covers_one (readsBack_string _) <| covers_one (readsBack_string _) <|
        covers_one (readsBack_string _) covers_nil)
      (by decide) (by decide)

/-! ## Onboarding servers -/

theorem readsBack_ownerHost (h : HostAddress) : ReadsBack (OwnerEntry.hostYaml h) :=
  readsBack_record
    (covers_opt readsBack_string <| covers_opt (fun _ => readsBack_string _) covers_nil)
    (by decide) (by decide)

theorem readsBack_ownerEntry (e : OwnerEntry) : ReadsBack e.toYaml :=
  readsBack_record
    (covers_one (readsBack_string _) <| covers_one (readsBack_port _) <|
      covers_one (readsBack_list (by simpa using fun h _ => readsBack_ownerHost h)) covers_nil)
    (by decide) (by decide)

theorem ofText?_onboarding (c : OnboardingConfig) : ofText? c.text = some c.toYaml := by
  refine ofText?_record (covers_one (readsBack_directoryStore _) <|
    covers_one (readsBack_directoryStore _) <| covers_one (readsBack_string _) <|
    covers_one (readsBack_string _) <| covers_one (readsBack_string _) <|
    covers_one (readsBack_string _) <| covers_one ?entries <| covers_one (readsBack_bool _) <|
    covers_one (readsBack_string _) <| covers_one ?token covers_nil)
    (by decide) (by decide) (by simp [Entries.one])
  case entries => exact readsBack_list (by simpa using fun e _ => readsBack_ownerEntry e)
  case token =>
    exact readsBack_variant (by decide) <|
      readsBack_record (covers_one (readsBack_string _) covers_nil) (by decide) (by decide)

/-! ## Servers for service information -/

theorem readsBack_user (u : Server.InitialUser) : ReadsBack (ServiceInfoConfig.userYaml u) :=
  readsBack_record
    (covers_one (readsBack_string _) <| covers_one (readsBack_strings _) covers_nil)
    (by decide) (by decide)

theorem readsBack_file (f : DeviceFile) : ReadsBack (ServiceInfoConfig.fileYaml f) :=
  readsBack_record
    (covers_one (readsBack_string _) <| covers_opt readsBack_string <|
      covers_one (readsBack_string _) covers_nil)
    (by decide) (by decide)

theorem readsBack_command (c : Server.Command) : ReadsBack (ServiceInfoConfig.commandYaml c) :=
  readsBack_record
    (covers_one (readsBack_string _) <| covers_one (readsBack_strings _) <|
      covers_one (readsBack_bool _) <| covers_one (readsBack_bool _) <|
      covers_one (readsBack_bool _) covers_nil)
    (by decide) (by decide)

theorem readsBack_disk (d : Server.DiskEncryption) : ReadsBack (ServiceInfoConfig.diskYaml d) := by
  refine readsBack_record
    (covers_one (readsBack_string _) <| covers_one ?binding <|
      covers_one (readsBack_bool _) covers_nil)
    (by decide) (by decide)
  case binding =>
    exact readsBack_record
      (covers_one (readsBack_string _) <| covers_one (readsBack_string _) covers_nil)
      (by decide) (by decide)

theorem ofText?_serviceInfo (c : ServiceInfoConfig) : ofText? c.text = some c.toYaml := by
  refine ofText?_record (covers_one (readsBack_string _) <|
    covers_one (readsBack_directoryStore _) <| covers_one (readsBack_string _) <|
    covers_one ?serviceInfo covers_nil)
    (by decide) (by decide) (by simp [Entries.one])
  case serviceInfo =>
    exact readsBack_record
      (covers_opt readsBack_user <| covers_many readsBack_file <| covers_many readsBack_command <|
        covers_many readsBack_disk covers_nil)
      (by decide) (by decide)

/-! ## Rendezvous servers -/

theorem ofText?_rendezvous : ofText? Rendezvous.text = some Rendezvous.toYaml :=
  ofText?_record
    (covers_one (readsBack_directoryStore _) <| covers_one (readsBack_directoryStore _) <|
      covers_one (readsBack_string _) <| covers_one (readsBack_string _) covers_nil)
    (by decide) (by decide) (by simp [Entries.one])

/-- The configuration of every server is read as the document that it was written from. -/
theorem configurations_read_back :
    (∀ c : ManufacturingConfig, ofText? c.text = some c.toYaml) ∧
      (∀ c : OnboardingConfig, ofText? c.text = some c.toYaml) ∧
      (∀ c : ServiceInfoConfig, ofText? c.text = some c.toYaml) ∧
      ofText? Rendezvous.text = some Rendezvous.toYaml :=
  ⟨ofText?_manufacturing, ofText?_onboarding, ofText?_serviceInfo, ofText?_rendezvous⟩

end DeviceOnboard.Config
