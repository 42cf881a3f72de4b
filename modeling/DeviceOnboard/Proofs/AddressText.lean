import DeviceOnboard.Address.Host
import DeviceOnboard.Proofs.SelectorText
import DeviceOnboard.Proofs.TrimmedText
import DeviceOnboard.Proofs.YamlLeaves
import Mathlib.Data.List.TakeWhile

/-!
# Addresses are read back from their text

The text of an address is read as this address, whichever run of zeros it leaves out: the groups
before the gap hold no gap of their own, so the first `::` of the text is the one that was written,
and as many zeros are put back as were left out. No text is both an IPv4 and an IPv6 address, since
only the latter has colons.
-/
namespace DeviceOnboard.Ip

/-! ## Numbers -/

section

variable {base : Nat} {digit? : Char → Option Nat}

theorem number?_append_singleton (value : Nat) (cs : List Char) (c : Char) :
    number? base digit? value (cs ++ [c]) =
      (number? base digit? value cs).bind fun n => (digit? c).map fun d => n * base + d := by
  induction cs generalizing value with
  | nil => cases h : digit? c <;> simp [number?, h]
  | cons x cs ih =>
    cases h : digit? x with
    | none => simp [number?, h]
    | some d => simpa [number?, h] using ih (value * base + d)

/-- A number is read back from its digits. -/
theorem number?_toDigits (valid : 1 < base)
    (digit : ∀ d < base, digit? (Nat.digitChar d) = some d) (n : Nat) :
    number? base digit? 0 (Nat.toDigits base n) = some n := by
  induction n using Nat.strongRecOn with
  | ind n ih =>
    by_cases small : n < base
    · simp [Nat.toDigits_of_lt_base small, number?, digit n small]
    · have front := ih (n / base) (Nat.div_lt_self (by omega) valid)
      have last := digit (n % base) (Nat.mod_lt _ (by omega))
      rw [Nat.toDigits_of_base_le valid (by omega), number?_append_singleton, front, last]
      simp [Nat.div_add_mod']

/-- Only digits make a number. -/
theorem isSome_digit?_of_number? {value n : Nat} {cs : List Char}
    (h : number? base digit? value cs = some n) : ∀ c ∈ cs, (digit? c).isSome := by
  induction cs generalizing value with
  | nil => simp
  | cons c cs ih =>
    obtain ⟨d, found, rest⟩ := Option.bind_eq_some_iff.mp h
    exact List.forall_mem_cons.mpr ⟨by simp [found], ih rest⟩

end

theorem toDigits_ne_nil (base n : Nat) : Nat.toDigits base n ≠ [] :=
  List.ne_nil_of_length_pos Nat.length_toDigits_pos

/-- Only zero starts with a zero. -/
theorem not_zeroPadded (n : Nat) :
    ¬ ((Nat.toDigits 10 n).head? = some '0' ∧ 1 < (Nat.toDigits 10 n).length) := by
  rintro ⟨zero, long⟩
  by_cases positive : 0 < n
  · exact Yaml.head_toDigits n positive zero
  · simp [Nat.eq_zero_of_not_pos positive] at long

theorem octet?_octetText (n : UInt8) : octet? (octetText n) = some n := by
  have fits : n.toNat < 256 := n.toNat_lt
  have short : (Nat.toDigits 10 n.toNat).length ≤ 3 :=
    (Nat.length_toDigits_le_iff (by omega) (by omega)).mpr (by omega)
  have value : number? 10 decimalDigit? 0 (Nat.toDigits 10 n.toNat) = some n.toNat :=
    number?_toDigits (by omega) (by decide) n.toNat
  have plain := not_zeroPadded n.toNat
  unfold octet? octetText
  rw [if_neg, value]
  · simp [fits]
  · simpa [toDigits_ne_nil, Nat.not_lt.mpr short] using plain

theorem group?_groupText (g : UInt16) : group? (groupText g) = some g := by
  have fits : g.toNat < 65536 := g.toNat_lt
  have short : (Nat.toDigits 16 g.toNat).length ≤ 4 :=
    (Nat.length_toDigits_le_iff (by omega) (by omega)).mpr (by omega)
  have value : number? 16 hexDigit? 0 (Nat.toDigits 16 g.toNat) = some g.toNat :=
    number?_toDigits (by omega) (by decide) g.toNat
  unfold group? groupText
  rw [if_neg, value]
  · simp
  · simp [short]

/-! ## Characters -/

/-- The characters of which the texts of addresses consist. -/
def alphabet : List Char :=
  ['0', '1', '2', '3', '4', '5', '6', '7', '8', '9', 'a', 'b', 'c', 'd', 'e', 'f', '.', ':']

theorem isSome_hexDigit?_of_mem {base n : Nat} (valid : 1 < base) (small : base ≤ 16) {c : Char}
    (member : c ∈ Nat.toDigits base n) : (hexDigit? c).isSome := by
  obtain ⟨d, bound, rfl⟩ := Yaml.mem_toDigits valid member
  have digit : ∀ d < 16, (hexDigit? (Nat.digitChar d)).isSome := by decide
  exact digit d (by omega)

theorem toDigits_subset {base n : Nat} (valid : 1 < base) (small : base ≤ 16) :
    Nat.toDigits base n ⊆ alphabet := by
  intro c member
  obtain ⟨d, bound, rfl⟩ := Yaml.mem_toDigits valid member
  have digit : ∀ d < 16, Nat.digitChar d ∈ alphabet := by decide
  exact digit d (by omega)

theorem not_mem_groupText (g : UInt16) {c : Char} (other : hexDigit? c = none) :
    c ∉ groupText g := fun member => by
  simpa [other] using isSome_hexDigit?_of_mem (by omega) (by omega) member

theorem not_mem_octetText (n : UInt8) {c : Char} (other : hexDigit? c = none) :
    c ∉ octetText n := fun member => by
  simpa [other] using isSome_hexDigit?_of_mem (by omega) (by omega) member

/-! ## Four octets -/

theorem octets?_dottedText (a b c d : UInt8) :
    octets? (dottedText a b c d) = some (a, b, c, d) := by
  have plain (n : UInt8) : '.' ∉ octetText n := not_mem_octetText n (by decide)
  unfold octets? dottedText
  simp only [List.append_assoc, List.cons_append]
  rw [Text.pieces_append_separator (plain a), Text.pieces_append_separator (plain b),
    Text.pieces_append_separator (plain c), Text.pieces_of_not_mem (plain d)]
  simp [octet?_octetText]

theorem colon_not_mem_dottedText (a b c d : UInt8) : ':' ∉ dottedText a b c d := by
  have plain (n : UInt8) : ':' ∉ octetText n := not_mem_octetText n (by decide)
  simp [dottedText, plain]

theorem octet?_no_colon {cs : List Char} {n : UInt8} (h : octet? cs = some n) : ':' ∉ cs := by
  unfold octet? at h
  split at h
  · cases h
  · obtain ⟨value, found, -⟩ := Option.bind_eq_some_iff.mp h
    intro colon
    have digit := isSome_digit?_of_number? found ':' colon
    exact absurd digit (by decide)

/-- What is read as four octets has no colon. -/
theorem octets?_no_colon {cs : List Char} {octets : UInt8 × UInt8 × UInt8 × UInt8}
    (h : octets? cs = some octets) : ':' ∉ cs := by
  have joined := Text.intercalate_pieces '.' cs
  unfold octets? at h
  split at h
  · rename_i a b c d parts
    obtain ⟨_, ha, h⟩ := Option.bind_eq_some_iff.mp h
    obtain ⟨_, hb, h⟩ := Option.bind_eq_some_iff.mp h
    obtain ⟨_, hc, h⟩ := Option.bind_eq_some_iff.mp h
    obtain ⟨_, hd, -⟩ := Option.bind_eq_some_iff.mp h
    rw [← joined, parts]
    simp [List.intercalate_cons_cons, octet?_no_colon ha, octet?_no_colon hb, octet?_no_colon hc,
      octet?_no_colon hd]
  · cases h

/-! ## Groups -/

theorem groupsText_cons_cons (g h : UInt16) (gs : List UInt16) :
    groupsText (g :: h :: gs) = groupText g ++ ':' :: groupsText (h :: gs) := rfl

theorem pieces_groupsText (g : UInt16) (gs : List UInt16) :
    Text.pieces ':' (groupsText (g :: gs)) = (g :: gs).map groupText := by
  have plain (g : UInt16) : ':' ∉ groupText g := not_mem_groupText g (by decide)
  induction gs generalizing g with
  | nil => exact Text.pieces_of_not_mem (plain g)
  | cons h gs ih =>
    rw [groupsText_cons_cons, Text.pieces_append_separator (plain g), ih]
    rfl

theorem groups?_map (dotted : Bool) (gs : List UInt16) :
    groups? dotted (gs.map groupText) = some gs := by
  induction gs with
  | nil => rfl
  | cons g gs ih =>
    cases gs with
    | nil => simp [groups?, group?_groupText]
    | cons h gs =>
      rw [List.map_cons, List.map_cons] at *
      rw [groups?, ih, group?_groupText]
      · rfl
      · simp

theorem groupsText_ne_nil (g : UInt16) (gs : List UInt16) : groupsText (g :: gs) ≠ [] := by
  have nonempty : groupText g ≠ [] := toDigits_ne_nil 16 g.toNat
  cases gs <;> simp [groupsText, nonempty]

theorem part?_groupsText (dotted : Bool) (gs : List UInt16) :
    part? dotted (groupsText gs) = some gs := by
  unfold part?
  cases gs with
  | nil => rfl
  | cons g gs => rw [if_neg (groupsText_ne_nil g gs), pieces_groupsText, groups?_map]

/-! ## The gap -/

theorem splitGap_cons {c : Char} {cs : List Char} (noGap : c = ':' → cs.head? ≠ some ':') :
    splitGap (c :: cs) = (splitGap cs).map fun p => (c :: p.1, p.2) := by
  cases cs with
  | nil => rfl
  | cons b cs =>
    rw [splitGap, if_neg]
    simpa using fun colon second => noGap colon (congrArg some second)

theorem splitGap_append {p : List Char} (plain : ':' ∉ p) (rest : List Char) :
    splitGap (p ++ rest) = (splitGap rest).map fun q => (p ++ q.1, q.2) := by
  induction p with
  | nil => simp
  | cons c p ih =>
    obtain ⟨first, later⟩ := not_or.mp (List.mem_cons.not.mp plain)
    rw [List.cons_append, splitGap_cons fun colon => absurd colon.symm first, ih later,
      Option.map_map]
    rfl

theorem head?_groupsText_ne (g : UInt16) (gs : List UInt16) (rest : List Char) :
    (groupsText (g :: gs) ++ rest).head? ≠ some ':' := by
  have plain : ':' ∉ groupText g := not_mem_groupText g (by decide)
  cases text : groupText g with
  | nil => exact absurd text (toDigits_ne_nil 16 g.toNat)
  | cons c cs =>
    have first : c ≠ ':' := fun colon => plain (by simp [text, colon])
    cases gs <;> simpa [groupsText, text] using first

/-- There is no gap in groups. -/
theorem splitGap_groupsText (gs : List UInt16) (rest : List Char) :
    splitGap (groupsText gs ++ rest) =
      (splitGap rest).map fun q => (groupsText gs ++ q.1, q.2) := by
  have plain (g : UInt16) : ':' ∉ groupText g := not_mem_groupText g (by decide)
  induction gs with
  | nil => simp [groupsText]
  | cons g gs ih =>
    cases gs with
    | nil => exact splitGap_append (plain g) rest
    | cons h gs =>
      rw [groupsText_cons_cons, List.append_assoc, List.cons_append, splitGap_append (plain g),
        splitGap_cons fun _ => head?_groupsText_ne h gs rest, ih]
      simp [Function.comp_def]

theorem zeroRun_spec (gs : List UInt16) :
    gs = List.replicate (zeroRun gs) 0 ++ gs.drop (zeroRun gs) := by
  have zeros : gs.takeWhile (· = 0) = List.replicate (zeroRun gs) 0 :=
    List.eq_replicate_of_mem fun g member => by simpa using List.mem_takeWhile_imp member
  have parts : gs.takeWhile (· = 0) ++ gs.dropWhile (· = 0) = gs :=
    List.takeWhile_append_dropWhile
  have rest : gs.drop (zeroRun gs) = gs.dropWhile (· = 0) := by
    have dropped : (gs.takeWhile (· = 0) ++ gs.dropWhile (· = 0)).drop (zeroRun gs) =
        gs.dropWhile (· = 0) := List.drop_left
    rwa [parts] at dropped
  rw [← zeros, rest, parts]

/-- What is left out between the groups that are written are zeros. -/
theorem longestZeroRun_spec (gs : List UInt16) :
    gs = gs.take (longestZeroRun gs).1 ++ List.replicate (longestZeroRun gs).2 0 ++
      gs.drop ((longestZeroRun gs).1 + (longestZeroRun gs).2) := by
  induction gs with
  | nil => rfl
  | cons g gs ih =>
    unfold longestZeroRun
    dsimp only
    split
    · simpa using zeroRun_spec (g :: gs)
    · rw [Nat.add_right_comm, List.take_succ_cons, List.drop_succ_cons]
      exact congrArg (g :: ·) ih

/-! ## Addresses -/

theorem pair_halves (x : UInt16) : pair (x / 256).toUInt8 x.toUInt8 = x := by
  have fits : x.toNat < 65536 := x.toNat_lt
  rw [← UInt16.toNat_inj]
  simp [pair]
  omega

theorem ofGroups?_toList (groups : Vector UInt16 8) :
    ofGroups? groups.toList = some (.v6 groups) := by
  unfold ofGroups?
  rw [dif_pos groups.length_toList]
  rfl

theorem mapped?_eq_some {gs : List UInt16} {octets : UInt8 × UInt8 × UInt8 × UInt8}
    (h : mapped? gs = some octets) : ∃ x y, gs = [0, 0, 0, 0, 0, 0xFFFF, x, y] ∧
      octets = ((x / 256).toUInt8, x.toUInt8, (y / 256).toUInt8, y.toUInt8) := by
  unfold mapped? at h
  split at h
  · exact ⟨_, _, rfl, (Option.some.inj h).symm⟩
  · cases h

theorem group?_dottedText (a b c d : UInt8) : group? (dottedText a b c d) = none := by
  have long : 4 < (dottedText a b c d).length := by
    have digits (n : UInt8) : 0 < (octetText n).length := Nat.length_toDigits_pos
    have := digits a
    have := digits b
    have := digits c
    have := digits d
    simp [dottedText]
    omega
  simp [group?, long]

/-- The last two groups may be written as octets. -/
theorem part?_mapped (a b c d : UInt8) :
    part? true (['f', 'f', 'f', 'f'] ++ ':' :: dottedText a b c d) =
      some [0xFFFF, pair a b, pair c d] := by
  have mask : group? ['f', 'f', 'f', 'f'] = some 0xFFFF := by decide
  rw [part?, if_neg (by simp), Text.pieces_append_separator (by decide),
    Text.pieces_of_not_mem (colon_not_mem_dottedText a b c d)]
  simp only [groups?, mask, group?_dottedText, octets?_dottedText]
  rfl

theorem splitGap_gap (back : List Char) : splitGap (':' :: ':' :: back) = some ([], back) := by
  simp [splitGap]

theorem v6?_of_gap {cs front back : List Char} {head tail : List UInt16}
    (gap : splitGap cs = some (front, back)) (first : part? false front = some head)
    (last : part? true back = some tail) (short : head.length + tail.length < 8) :
    v6? cs = ofGroups? (head ++ List.replicate (8 - head.length - tail.length) 0 ++ tail) := by
  simp [v6?, gap, first, last, short]

/-- The groups of an address are read back from its text. -/
theorem v6?_v6Text {gs : List UInt16} (eight : gs.length = 8) :
    v6? (v6Text gs) = ofGroups? gs := by
  unfold v6Text
  split
  · rename_i a b c d octets
    obtain ⟨x, y, rfl, same⟩ := mapped?_eq_some octets
    simp only [Prod.mk.injEq] at same
    obtain ⟨rfl, rfl, rfl, rfl⟩ := same
    have last := part?_mapped (x / 256).toUInt8 x.toUInt8 (y / 256).toUInt8 y.toUInt8
    rw [pair_halves, pair_halves] at last
    exact v6?_of_gap (splitGap_gap _) rfl last (by simp)
  · dsimp only
    have parts := longestZeroRun_spec gs
    generalize longestZeroRun gs = run at parts
    obtain ⟨start, length⟩ := run
    dsimp only at parts ⊢
    split
    · rename_i long
      have total := congrArg List.length parts
      rw [eight, List.length_append, List.length_append, List.length_replicate] at total
      have gap : splitGap (groupsText (gs.take start) ++ [':', ':'] ++
          groupsText (gs.drop (start + length))) =
            some (groupsText (gs.take start), groupsText (gs.drop (start + length))) := by
        rw [List.append_assoc, splitGap_groupsText]
        simp [splitGap_gap]
      rw [v6?_of_gap gap (part?_groupsText false _) (part?_groupsText true _) (by omega),
        show 8 - (gs.take start).length - (gs.drop (start + length)).length = length by omega,
        ← parts]
    · have noGap : splitGap (groupsText gs) = none := by
        simpa [splitGap] using splitGap_groupsText gs []
      obtain ⟨g, rest, rfl⟩ := List.exists_cons_of_length_eq_add_one eight
      simp only [v6?, noGap, pieces_groupsText, groups?_map, Option.bind_some]

theorem colon_mem_v6Text {gs : List UInt16} (eight : gs.length = 8) : ':' ∈ v6Text gs := by
  unfold v6Text
  split
  · simp
  · dsimp only
    split
    · simp
    · obtain ⟨g, h, rest, rfl⟩ : ∃ g h rest, gs = g :: h :: rest := by
        match gs, eight with
        | g :: h :: rest, _ => exact ⟨g, h, rest, rfl⟩
      simp [groupsText_cons_cons]

/-- An address is read back from its text. -/
theorem ofText?_text (a : Ip) : ofText? a.text = some a := by
  cases a with
  | v4 a b c d => simp [ofText?, text, v4?, octets?_dottedText]
  | v6 groups =>
    have eight := groups.length_toList
    have notV4 : octets? (v6Text groups.toList) = none := by
      cases found : octets? (v6Text groups.toList) with
      | none => rfl
      | some octets => exact absurd (colon_mem_v6Text eight) (octets?_no_colon found)
    simp [ofText?, text, v4?, notV4, v6?_v6Text eight, ofGroups?_toList]

theorem text_injective {a b : Ip} (same : a.text = b.text) : a = b := by
  have read := ofText?_text a
  rw [same, ofText?_text] at read
  exact (Option.some.inj read).symm

/-! ## Trimming -/

theorem dottedText_subset (a b c d : UInt8) : dottedText a b c d ⊆ alphabet := by
  have octet (n : UInt8) : octetText n ⊆ alphabet := toDigits_subset (by omega) (by omega)
  have dot : '.' ∈ alphabet := by decide
  simp [dottedText, octet, dot]

theorem groupsText_subset (gs : List UInt16) : groupsText gs ⊆ alphabet := by
  have group (g : UInt16) : groupText g ⊆ alphabet := toDigits_subset (by omega) (by omega)
  have colon : ':' ∈ alphabet := by decide
  induction gs with
  | nil => exact List.nil_subset _
  | cons g gs ih =>
    cases gs with
    | nil => exact group g
    | cons h gs =>
      rw [groupsText_cons_cons]
      exact List.append_subset.mpr ⟨group g, List.cons_subset.mpr ⟨colon, ih⟩⟩

theorem v6Text_subset (gs : List UInt16) : v6Text gs ⊆ alphabet := by
  unfold v6Text
  split
  · exact List.append_subset.mpr ⟨by decide, dottedText_subset _ _ _ _⟩
  · dsimp only
    split
    · have gap : [':', ':'] ⊆ alphabet := by decide
      exact List.append_subset.mpr
        ⟨List.append_subset.mpr ⟨groupsText_subset _, gap⟩, groupsText_subset _⟩
    · exact groupsText_subset gs

theorem text_subset (a : Ip) : a.text.toList ⊆ alphabet := by
  cases a with
  | v4 a b c d =>
    rw [text, String.toList_ofList]
    exact dottedText_subset a b c d
  | v6 groups =>
    rw [text, String.toList_ofList]
    exact v6Text_subset groups.toList

theorem text_ne_empty (a : Ip) : a.text ≠ "" := by
  intro empty
  have read := ofText?_text a
  rw [empty] at read
  cases read

end DeviceOnboard.Ip

namespace DeviceOnboard.Text

theorem trim_text (a : Ip) : trim a.text = a.text := by
  have plain : (Ip.alphabet.all fun c => !isBlank c) = true := by decide
  exact trim_eq_self fun c member => by
    simpa using List.all_eq_true.mp plain c (a.text_subset member)

end DeviceOnboard.Text
