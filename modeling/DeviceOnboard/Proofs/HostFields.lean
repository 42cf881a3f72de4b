import DeviceOnboard.Proofs.AddressGrammar

/-!
# The host that two fields give

Which host or error comes of a field for a DNS name and a field for an IP address, for all contents
of both. Only what the fields hold between blanks counts: whether there is anything, and for an IP
address whether the grammar gives it a value.
-/
namespace DeviceOnboard.HostAddress

open Config Text Ip.Grammar

/-- What two fields come to. -/
inductive Resolves (target : String) (dns ip : Option String) : Except Error HostAddress → Prop where
  | both {name address : String} (first : Holds dns name) (second : Holds ip address) :
      Resolves target dns ip (.error (.bothAddresses target))
  | neither (first : Unset dns) (second : Unset ip) :
      Resolves target dns ip (.error (.missingAddress target))
  | dns {name : String} (first : Holds dns name) (second : Unset ip) :
      Resolves target dns ip (.ok (.dns name))
  | ip {address : String} {a : Ip} (first : Unset dns) (second : Holds ip address)
      (spelled : Spells address.toList a) : Resolves target dns ip (.ok (.ip a))
  | invalid {address : String} (first : Unset dns) (second : Holds ip address)
      (unspelled : ∀ a, ¬Spells address.toList a) :
      Resolves target dns ip (.error (.invalidIpAddress target address))

variable {target : String} {dns ip : Option String} {r : Except Error HostAddress}

theorem resolves_ofFields (target : String) (dns ip : Option String) :
    Resolves target dns ip (ofFields target dns ip) := by
  unfold ofFields
  split
  · rename_i first second
    exact .both (field?_eq_some_iff.mp first) (field?_eq_some_iff.mp second)
  · rename_i first second
    exact .neither (field?_eq_none_iff.mp first) (field?_eq_none_iff.mp second)
  · rename_i first second
    exact .dns (field?_eq_some_iff.mp first) (field?_eq_none_iff.mp second)
  · rename_i first second
    split
    · rename_i read
      exact .ip (field?_eq_none_iff.mp first) (field?_eq_some_iff.mp second) (Ip.ofText?_iff.mp read)
    · rename_i unread
      refine .invalid (field?_eq_none_iff.mp first) (field?_eq_some_iff.mp second) fun a spelled => ?_
      rw [Ip.ofText?_iff.mpr spelled] at unread
      cases unread

theorem ofFields_of_resolves (h : Resolves target dns ip r) : ofFields target dns ip = r := by
  unfold ofFields
  cases h with
  | both first second => rw [field?_eq_some_iff.mpr first, field?_eq_some_iff.mpr second]
  | neither first second => rw [field?_eq_none_iff.mpr first, field?_eq_none_iff.mpr second]
  | dns first second => rw [field?_eq_some_iff.mpr first, field?_eq_none_iff.mpr second]
  | ip first second spelled =>
    simp only [field?_eq_none_iff.mpr first, field?_eq_some_iff.mpr second,
      Ip.ofText?_iff.mpr spelled]
  | @invalid address first second unspelled =>
    have unread : Ip.ofText? address = none :=
      Option.eq_none_iff_forall_ne_some.mpr fun a read => unspelled a (Ip.ofText?_iff.mp read)
    simp only [field?_eq_none_iff.mpr first, field?_eq_some_iff.mpr second, unread]

theorem ofFields_eq_iff : ofFields target dns ip = r ↔ Resolves target dns ip r :=
  ⟨fun h => h ▸ resolves_ofFields target dns ip, ofFields_of_resolves⟩

/-- For all contents of the two fields:

- each field is either unset or holds exactly one text between blanks;
- the outcome is the one that is given by what the fields hold, where an IP address has to be a
  spelling of the grammar and comes to the value that the grammar gives it;
- no text is a spelling of two addresses;
- blanks around the contents of the fields change nothing. -/
theorem fields_resolve (target : String) (dns ip : Option String) :
    (∀ field, (Unset field ∧ ∀ t, ¬Holds field t) ∨ (¬Unset field ∧ ∃! t, Holds field t)) ∧
    (∀ r, ofFields target dns ip = r ↔ Resolves target dns ip r) ∧
    (∀ cs a b, Spells cs a → Spells cs b → a = b) ∧
    ∀ front back front' back' : String, Blank front → Blank back → Blank front' → Blank back' →
      ofFields target (dns.map fun s => front ++ s ++ back)
        (ip.map fun s => front' ++ s ++ back') = ofFields target dns ip := by
  refine ⟨unset_or_holds, fun r => ofFields_eq_iff, fun cs a b => Spells.unique, ?_⟩
  intro front back front' back' blankFront blankBack blankFront' blankBack'
  unfold ofFields
  rw [field?_append_blanks blankFront blankBack, field?_append_blanks blankFront' blankBack']

example : ofFields "owner address" (some " ") (some "\u3000fe80::1:127.0.0.1\n") =
    .ok (.ip (.v6 #v[0xFE80, 0, 0, 0, 0, 1, 0x7F00, 1])) := rfl

example : ofFields "owner address" none (some " 1::2::3") =
    .error (.invalidIpAddress "owner address" "1::2::3") := rfl

end DeviceOnboard.HostAddress
