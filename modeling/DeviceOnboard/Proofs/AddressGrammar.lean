import DeviceOnboard.Proofs.AddressText
import Mathlib.Data.List.Forall2
import Mathlib.Data.Nat.Digits.Defs

/-!
# The grammar of addresses

Which texts are addresses, and of which value, as rules on the text alone: four decimal octets
between dots, or eight groups of hexadecimal digits between colons, of which one run of zeros may be
left out with `::` and the last two may be four octets. Reading a text gives an address just if the
grammar does, and the same one. A text is read by cutting it at its separators, so the rules are met
one separator at a time: no separator stands inside an octet or a group, and the first `::` of a
text is its only one.
-/
namespace DeviceOnboard.Ip

/-! ## Rules -/

namespace Grammar

/-- A character is the digit of a value in a base. The letters may be of either case. -/
def IsDigit (base : Nat) (c : Char) (d : Nat) : Prop :=
  d < base ∧ ("0123456789abcdef".toList[d]? = some c ∨ "0123456789ABCDEF".toList[d]? = some c)

/-- Digits write a number, the first one of them with the highest weight. -/
def Writes (base : Nat) (cs : List Char) (n : Nat) : Prop :=
  ∃ ds, List.Forall₂ (IsDigit base) cs ds ∧ n = Nat.ofDigits base ds.reverse

/-- One to three decimal digits without a leading zero. -/
structure IsOctet (cs : List Char) (n : UInt8) : Prop where
  nonempty : cs ≠ []
  short : cs.length ≤ 3
  unpadded : cs.head? = some '0' → cs.length = 1
  value : Writes 10 cs n.toNat

/-- One to four hexadecimal digits. -/
structure IsGroup (cs : List Char) (g : UInt16) : Prop where
  nonempty : cs ≠ []
  short : cs.length ≤ 4
  value : Writes 16 cs g.toNat

/-- Four octets with dots between them. -/
inductive IsDotted : List Char → UInt8 → UInt8 → UInt8 → UInt8 → Prop where
  | octets {p q r s : List Char} {a b c d : UInt8} (first : IsOctet p a) (second : IsOctet q b)
      (third : IsOctet r c) (fourth : IsOctet s d) :
      IsDotted (p ++ '.' :: q ++ '.' :: r ++ '.' :: s) a b c d

/-- One or more groups with colons between them. If `dotted` is set, the last two may be written as
four octets. -/
inductive IsGroups (dotted : Bool) : List Char → List UInt16 → Prop where
  | last {cs : List Char} {g : UInt16} (group : IsGroup cs g) : IsGroups dotted cs [g]
  | octets {cs : List Char} {a b c d : UInt8} {x y : UInt16} (allowed : dotted = true)
      (text : IsDotted cs a b c d) (high : x.toNat = a.toNat * 256 + b.toNat)
      (low : y.toNat = c.toNat * 256 + d.toNat) : IsGroups dotted cs [x, y]
  | more {p cs : List Char} {g : UInt16} {gs : List UInt16} (group : IsGroup p g)
      (rest : IsGroups dotted cs gs) : IsGroups dotted (p ++ ':' :: cs) (g :: gs)

/-- Groups next to a gap, where there may be none. -/
inductive IsPart (dotted : Bool) : List Char → List UInt16 → Prop where
  | empty : IsPart dotted [] []
  | groups {cs : List Char} {gs : List UInt16} (text : IsGroups dotted cs gs) : IsPart dotted cs gs

/-- A text is a spelling of an address. A gap stands for at least one group of zeros. -/
inductive Spells : List Char → Ip → Prop where
  | v4 {cs : List Char} {a b c d : UInt8} (text : IsDotted cs a b c d) : Spells cs (.v4 a b c d)
  | v6 {cs : List Char} {groups : Vector UInt16 8} (text : IsGroups true cs groups.toList) :
      Spells cs (.v6 groups)
  | gap {front back : List Char} {head tail : List UInt16} {zeros : Nat}
      {groups : Vector UInt16 8} (before : IsPart false front head) (after : IsPart true back tail)
      (positive : 0 < zeros) (all : groups.toList = head ++ List.replicate zeros 0 ++ tail) :
      Spells (front ++ ':' :: ':' :: back) (.v6 groups)

end Grammar

open Grammar

/-! ## Numbers -/

theorem exists_of_range {low high c : Char} (h : (decide (low ≤ c) && decide (c ≤ high)) = true) :
    ∃ n, n ≤ high.toNat - low.toNat ∧ c.toNat = low.toNat + n ∧
      c = Char.ofNat (low.toNat + n) := by
  simp only [Bool.and_eq_true, decide_eq_true_eq, Char.le_def, UInt32.le_iff_toNat_le] at h
  obtain ⟨first, last⟩ := h
  have place : c.toNat = low.toNat + (c.toNat - low.toNat) := (Nat.add_sub_cancel' first).symm
  exact ⟨c.toNat - low.toNat, Nat.sub_le_sub_right last _, place, by rw [← place, Char.ofNat_toNat]⟩

/-- Where the digits of the table are read, all digits are. -/
theorem digit?_of_isDigit {base : Nat} {digit? : Char → Option Nat}
    (table : ∀ d < base, ("0123456789abcdef".toList[d]?).bind digit? = some d ∧
      ("0123456789ABCDEF".toList[d]?).bind digit? = some d) {c : Char} {d : Nat}
    (digit : IsDigit base c d) : digit? c = some d := by
  obtain ⟨small, lower | upper⟩ := digit
  · simpa only [lower, Option.bind_some] using (table d small).1
  · simpa only [upper, Option.bind_some] using (table d small).2

theorem decimalDigit?_iff {c : Char} {d : Nat} : decimalDigit? c = some d ↔ IsDigit 10 c d := by
  have digits : ∀ n ≤ 9, IsDigit 10 (Char.ofNat (48 + n)) n := by
    unfold IsDigit
    decide
  refine ⟨fun h => ?_, digit?_of_isDigit (by decide)⟩
  unfold decimalDigit? at h
  split at h
  · rename_i range
    obtain ⟨n, bound, place, rfl⟩ := exists_of_range range
    have same : n = d := by grind
    exact same ▸ digits n bound
  · cases h

theorem hexDigit?_iff {c : Char} {d : Nat} : hexDigit? c = some d ↔ IsDigit 16 c d := by
  have digits : ∀ n ≤ 9, IsDigit 16 (Char.ofNat (48 + n)) n := by
    unfold IsDigit
    decide
  have letters : ∀ n ≤ 5, IsDigit 16 (Char.ofNat (97 + n)) (10 + n) ∧
      IsDigit 16 (Char.ofNat (65 + n)) (10 + n) := by
    unfold IsDigit
    decide
  refine ⟨fun h => ?_, digit?_of_isDigit (by decide)⟩
  unfold hexDigit? at h
  split at h
  · rename_i range
    obtain ⟨n, bound, place, rfl⟩ := exists_of_range range
    have same : n = d := by grind
    exact same ▸ digits n bound
  split at h
  · rename_i range
    obtain ⟨n, bound, place, rfl⟩ := exists_of_range range
    have same : 10 + n = d := by grind
    exact same ▸ (letters n bound).1
  split at h
  · rename_i range
    obtain ⟨n, bound, place, rfl⟩ := exists_of_range range
    have same : 10 + n = d := by grind
    exact same ▸ (letters n bound).2
  · cases h

section

variable {base : Nat} {digit? : Char → Option Nat} {n : Nat} {cs : List Char}

/-- A digit in front of others moves what stands before it by one place. -/
theorem ofDigits_weighed (value d : Nat) (ds : List Nat) :
    value * base ^ (d :: ds).length + Nat.ofDigits base (d :: ds).reverse =
      (value * base + d) * base ^ ds.length + Nat.ofDigits base ds.reverse := by
  rw [List.reverse_cons, Nat.ofDigits_append, Nat.ofDigits_singleton, List.length_reverse,
    List.length_cons]
  ring

/-- A number is read from digits just if they write it, below the value of the digits before. -/
theorem number?_iff (digit : ∀ c d, digit? c = some d ↔ IsDigit base c d) {value : Nat} :
    number? base digit? value cs = some n ↔
      ∃ ds, List.Forall₂ (IsDigit base) cs ds ∧
        n = value * base ^ ds.length + Nat.ofDigits base ds.reverse := by
  induction cs generalizing value with
  | nil => simp [number?, eq_comm]
  | cons c cs ih =>
    rw [number?, Option.bind_eq_some_iff]
    constructor
    · rintro ⟨d, first, rest⟩
      obtain ⟨ds, each, rfl⟩ := ih.mp rest
      exact ⟨d :: ds, .cons ((digit c d).mp first) each, (ofDigits_weighed value d ds).symm⟩
    · rintro ⟨_, each, rfl⟩
      obtain ⟨d, ds, first, rest, rfl⟩ := List.forall₂_cons_left_iff.mp each
      exact ⟨d, (digit c d).mpr first, ih.mpr ⟨ds, rest, ofDigits_weighed value d ds⟩⟩

theorem number?_zero_iff (digit : ∀ c d, digit? c = some d ↔ IsDigit base c d) :
    number? base digit? 0 cs = some n ↔ Writes base cs n := by
  simp [number?_iff digit, Writes]

theorem writes_lt (valid : 1 < base) (h : Writes base cs n) : n < base ^ cs.length := by
  obtain ⟨ds, each, rfl⟩ := h
  have small : ∀ d ∈ ds, d < base := by
    clear valid
    induction each with
    | nil => simp
    | cons first _ ih => exact List.forall_mem_cons.mpr ⟨first.1, ih⟩
  rw [each.length_eq, ← List.length_reverse]
  exact Nat.ofDigits_lt_base_pow_length valid fun d member => small d (List.mem_reverse.mp member)

/-- No other characters stand among digits. -/
theorem not_mem_of_writes {c : Char} (other : hexDigit? c = none) (small : base ≤ 16)
    (h : Writes base cs n) : c ∉ cs := by
  obtain ⟨ds, each, -⟩ := h
  induction each with
  | nil => exact List.not_mem_nil
  | cons first _ ih =>
    refine List.not_mem_cons_of_ne_of_not_mem ?_ ih
    rintro rfl
    have digit := hexDigit?_iff.mpr ⟨Nat.lt_of_lt_of_le first.1 small, first.2⟩
    rw [other] at digit
    cases digit

end

/-! ## Octets and groups -/

theorem octet?_iff {cs : List Char} {n : UInt8} : octet? cs = some n ↔ IsOctet cs n := by
  have read {value : Nat} : number? 10 decimalDigit? 0 cs = some value ↔ Writes 10 cs value :=
    number?_zero_iff fun _ _ => decimalDigit?_iff
  unfold octet?
  constructor
  · intro h
    split at h
    · cases h
    · rename_i shape
      obtain ⟨value, digits, fits⟩ := Option.bind_eq_some_iff.mp h
      split at fits
      · rename_i small
        obtain rfl := Option.some.inj fits
        have same : value.toUInt8.toNat = value := by simpa using Nat.mod_eq_of_lt small
        simp only [Bool.or_eq_true, Bool.and_eq_true, decide_eq_true_eq] at shape
        have positive : cs.length ≠ 0 := by grind
        refine ⟨by grind, by grind, by grind, ?_⟩
        rw [same]
        exact read.mp digits
      · cases fits
  · rintro ⟨nonempty, short, unpadded, value⟩
    have small : n.toNat < 256 := n.toNat_lt
    rw [if_neg (by grind), read.mpr value]
    simp [small]

theorem group?_iff {cs : List Char} {g : UInt16} : group? cs = some g ↔ IsGroup cs g := by
  have read {value : Nat} : number? 16 hexDigit? 0 cs = some value ↔ Writes 16 cs value :=
    number?_zero_iff fun _ _ => hexDigit?_iff
  unfold group?
  constructor
  · intro h
    split at h
    · cases h
    · rename_i shape
      obtain ⟨value, digits, rfl⟩ := Option.map_eq_some_iff.mp h
      simp only [Bool.or_eq_true, decide_eq_true_eq, not_or, Nat.not_lt] at shape
      have written := read.mp digits
      have small : value < 65536 :=
        Nat.lt_of_lt_of_le (writes_lt (by decide) written)
          (Nat.pow_le_pow_right (by decide) shape.2)
      have same : value.toUInt16.toNat = value := by simpa using Nat.mod_eq_of_lt small
      exact ⟨shape.1, shape.2, same.symm ▸ written⟩
  · rintro ⟨nonempty, short, value⟩
    rw [if_neg (by grind), read.mpr value]
    simp

theorem Grammar.IsOctet.not_mem {cs : List Char} {n : UInt8} (h : IsOctet cs n) {c : Char}
    (other : hexDigit? c = none) : c ∉ cs :=
  not_mem_of_writes other (by decide) h.value

theorem Grammar.IsGroup.not_mem {cs : List Char} {g : UInt16} (h : IsGroup cs g) {c : Char}
    (other : hexDigit? c = none) : c ∉ cs :=
  not_mem_of_writes other (by decide) h.value

theorem octets?_iff {cs : List Char} {a b c d : UInt8} :
    octets? cs = some (a, b, c, d) ↔ IsDotted cs a b c d := by
  constructor
  · intro h
    have joined := Text.intercalate_pieces '.' cs
    unfold octets? at h
    split at h
    · rename_i p q r s parts
      obtain ⟨a', first, h⟩ := Option.bind_eq_some_iff.mp h
      obtain ⟨b', second, h⟩ := Option.bind_eq_some_iff.mp h
      obtain ⟨c', third, h⟩ := Option.bind_eq_some_iff.mp h
      obtain ⟨d', fourth, h⟩ := Option.bind_eq_some_iff.mp h
      obtain ⟨rfl, rfl, rfl, rfl⟩ : a' = a ∧ b' = b ∧ c' = c ∧ d' = d := by
        simpa [pure] using h
      have written : cs = p ++ '.' :: q ++ '.' :: r ++ '.' :: s := by
        rw [← joined, parts]
        simp [List.intercalate_cons_cons]
      rw [written]
      exact .octets (octet?_iff.mp first) (octet?_iff.mp second) (octet?_iff.mp third)
        (octet?_iff.mp fourth)
    · cases h
  · rintro ⟨first, second, third, fourth⟩
    have dot : hexDigit? '.' = none := by decide
    unfold octets?
    simp only [List.append_assoc, List.cons_append]
    rw [Text.pieces_append_separator (first.not_mem dot),
      Text.pieces_append_separator (second.not_mem dot),
      Text.pieces_append_separator (third.not_mem dot), Text.pieces_of_not_mem (fourth.not_mem dot)]
    simp [octet?_iff.mpr first, octet?_iff.mpr second, octet?_iff.mpr third, octet?_iff.mpr fourth]

/-! ## Groups in a row -/

section

variable {dotted : Bool} {cs : List Char} {gs : List UInt16} {a b c d : UInt8}

theorem Grammar.IsDotted.no_group (h : IsDotted cs a b c d) : group? cs = none := by
  cases read : group? cs with
  | none => rfl
  | some g =>
    have plain : '.' ∉ cs := (group?_iff.mp read).not_mem (by decide)
    cases h
    simp at plain

theorem Grammar.IsDotted.no_colon (h : IsDotted cs a b c d) : ':' ∉ cs :=
  octets?_no_colon (octets?_iff.mpr h)

theorem Grammar.IsDotted.ne_nil (h : IsDotted cs a b c d) : cs ≠ [] := by
  cases h
  simp

theorem toNat_pair (a b : UInt8) : (pair a b).toNat = a.toNat * 256 + b.toNat := by
  have := a.toNat_lt
  have := b.toNat_lt
  simp [pair]
  omega

theorem pair_eq_iff {x : UInt16} : pair a b = x ↔ x.toNat = a.toNat * 256 + b.toNat := by
  rw [← UInt16.toNat_inj, toNat_pair, eq_comm]

theorem isGroups_of_groups? {ps : List (List Char)} (nonempty : ps ≠ [])
    (h : groups? dotted ps = some gs) : IsGroups dotted ([':'].intercalate ps) gs := by
  fun_induction groups? dotted ps generalizing gs with
  | case1 => exact absurd rfl nonempty
  | case2 p g read =>
    cases h
    rw [List.intercalate_singleton]
    exact .last (group?_iff.mp read)
  | case3 p read allowed =>
    obtain ⟨⟨a, b, c, d⟩, octets, rfl⟩ := Option.map_eq_some_iff.mp h
    rw [List.intercalate_singleton]
    exact .octets allowed (octets?_iff.mp octets) (toNat_pair a b) (toNat_pair c d)
  | case4 => cases h
  | case5 p ps several ih =>
    obtain ⟨g, first, h⟩ := Option.bind_eq_some_iff.mp h
    obtain ⟨gs', rest, same⟩ := Option.bind_eq_some_iff.mp h
    obtain rfl := Option.some.inj same
    obtain ⟨q, qs, rfl⟩ := List.exists_cons_of_ne_nil fun none => several none
    rw [List.intercalate_cons_cons, List.append_assoc, List.singleton_append]
    exact .more (group?_iff.mp first) (ih (List.cons_ne_nil q qs) rest)

theorem groups?_of_isGroups (h : IsGroups dotted cs gs) :
    groups? dotted (Text.pieces ':' cs) = some gs := by
  have colon : hexDigit? ':' = none := by decide
  induction h with
  | last group =>
    rw [Text.pieces_of_not_mem (group.not_mem colon), groups?, group?_iff.mpr group]
  | octets allowed text high low =>
    rw [Text.pieces_of_not_mem text.no_colon, groups?, text.no_group]
    simp [allowed, octets?_iff.mpr text, pair_eq_iff.mpr high, pair_eq_iff.mpr low]
  | @more p cs g gs group rest ih =>
    rw [Text.pieces_append_separator (group.not_mem colon), groups?, ih, group?_iff.mpr group]
    · rfl
    · exact Text.pieces_ne_nil ':' cs

theorem groups?_iff : groups? dotted (Text.pieces ':' cs) = some gs ↔ IsGroups dotted cs gs := by
  refine ⟨fun h => ?_, groups?_of_isGroups⟩
  have groups := isGroups_of_groups? (Text.pieces_ne_nil ':' cs) h
  rwa [Text.intercalate_pieces] at groups

/-- Neither groups nor octets are empty. -/
theorem Grammar.IsGroups.ne_nil (h : IsGroups dotted cs gs) : cs ≠ [] := by
  cases h with
  | last group => exact group.nonempty
  | octets allowed text => exact text.ne_nil
  | more => simp

theorem part?_iff : part? dotted cs = some gs ↔ IsPart dotted cs gs := by
  unfold part?
  constructor
  · intro h
    split at h
    · rename_i empty
      cases h
      exact empty ▸ .empty
    · exact .groups (groups?_iff.mp h)
  · intro h
    cases h with
    | empty => rfl
    | groups text => rw [if_neg text.ne_nil, groups?_iff.mpr text]

/-! ## The gap -/

theorem eq_append_of_splitGap {front back : List Char} (h : splitGap cs = some (front, back)) :
    cs = front ++ ':' :: ':' :: back := by
  fun_induction splitGap cs generalizing front with
  | case1 => cases h
  | case2 => cases h
  | case3 a b cs found =>
    cases h
    simp at found
    simp [found]
  | case4 a b cs _ ih =>
    obtain ⟨⟨front', back'⟩, later, same⟩ := Option.map_eq_some_iff.mp h
    cases same
    rw [ih later]
    rfl

theorem Grammar.IsGroups.head?_ne_colon (h : IsGroups dotted cs gs) (rest : List Char) :
    (cs ++ rest).head? ≠ some ':' := by
  have colon : hexDigit? ':' = none := by decide
  have first {p : List Char} (nonempty : p ≠ []) (plain : ':' ∉ p) (rest : List Char) :
      (p ++ rest).head? ≠ some ':' := by
    obtain ⟨c, p, rfl⟩ := List.exists_cons_of_ne_nil nonempty
    intro same
    cases same
    simp at plain
  cases h with
  | last group => exact first group.nonempty (group.not_mem colon) rest
  | octets allowed text => exact first text.ne_nil text.no_colon rest
  | more group =>
    rw [List.append_assoc]
    exact first group.nonempty (group.not_mem colon) _

/-- There is no gap in groups. -/
theorem Grammar.IsGroups.splitGap_append (h : IsGroups dotted cs gs) (rest : List Char) :
    splitGap (cs ++ rest) = (splitGap rest).map fun q => (cs ++ q.1, q.2) := by
  have colon : hexDigit? ':' = none := by decide
  induction h with
  | last group => exact Ip.splitGap_append (group.not_mem colon) rest
  | octets allowed text => exact Ip.splitGap_append text.no_colon rest
  | more group groups ih =>
    rw [List.append_assoc, List.cons_append, Ip.splitGap_append (group.not_mem colon),
      splitGap_cons fun _ => groups.head?_ne_colon rest, ih]
    simp [Function.comp_def]

theorem Grammar.IsPart.splitGap_append {front back : List Char} (h : IsPart dotted front gs) :
    splitGap (front ++ ':' :: ':' :: back) = some (front, back) := by
  cases h with
  | empty => exact splitGap_gap back
  | groups text =>
    rw [text.splitGap_append, splitGap_gap]
    simp

theorem splitGap_of_isGroups (h : IsGroups dotted cs gs) : splitGap cs = none := by
  simpa [splitGap] using h.splitGap_append []

/-! ## Addresses -/

theorem ofGroups?_iff {a : Ip} :
    ofGroups? gs = some a ↔ ∃ groups : Vector UInt16 8, a = .v6 groups ∧ groups.toList = gs := by
  constructor
  · intro h
    unfold ofGroups? at h
    split at h
    · rename_i eight
      exact ⟨_, (Option.some.inj h).symm, by simp⟩
    · cases h
  · rintro ⟨groups, rfl, rfl⟩
    exact ofGroups?_toList groups

theorem spells_of_v6? {a : Ip} (h : v6? cs = some a) : Spells cs a := by
  unfold v6? at h
  split at h
  · obtain ⟨gs, read, eight⟩ := Option.bind_eq_some_iff.mp h
    obtain ⟨groups, rfl, rfl⟩ := ofGroups?_iff.mp eight
    exact .v6 (groups?_iff.mp read)
  · rename_i front back gap
    obtain ⟨head, before, h⟩ := Option.bind_eq_some_iff.mp h
    obtain ⟨tail, after, h⟩ := Option.bind_eq_some_iff.mp h
    split at h
    · rename_i short
      obtain ⟨groups, rfl, all⟩ := ofGroups?_iff.mp h
      rw [eq_append_of_splitGap gap]
      exact .gap (part?_iff.mp before) (part?_iff.mp after) (by omega) all
    · cases h

theorem v6?_of_spells {groups : Vector UInt16 8} (h : Spells cs (.v6 groups)) :
    v6? cs = some (.v6 groups) := by
  have eight := groups.length_toList
  cases h with
  | v6 text =>
    simp only [v6?, splitGap_of_isGroups text, groups?_iff.mpr text, Option.bind_some,
      ofGroups?_toList]
  | @gap front back head tail zeros _ before after positive all =>
    have total := congrArg List.length all
    simp only [eight, List.length_append, List.length_replicate] at total
    rw [v6?_of_gap before.splitGap_append (part?_iff.mpr before) (part?_iff.mpr after) (by omega),
      show 8 - head.length - tail.length = zeros by omega, ← all, ofGroups?_toList]

/-- Eight groups cannot be written without a colon. -/
theorem colon_mem_of_spells {groups : Vector UInt16 8} (h : Spells cs (.v6 groups)) : ':' ∈ cs := by
  have eight := groups.length_toList
  cases h with
  | v6 text =>
    generalize groups.toList = gs at text eight
    cases text with
    | last => simp at eight
    | octets => simp at eight
    | more => simp
  | gap => simp

theorem spells_v4_iff : Spells cs (.v4 a b c d) ↔ IsDotted cs a b c d := by
  refine ⟨fun h => ?_, .v4⟩
  cases h with
  | v4 text => exact text

/-- A text is read as an address just if it is a spelling of it. -/
theorem ofText?_iff {s : String} {a : Ip} : ofText? s = some a ↔ Spells s.toList a := by
  unfold ofText? v4?
  rw [Option.or_eq_some_iff]
  constructor
  · rintro (v4 | ⟨-, v6⟩)
    · obtain ⟨⟨a, b, c, d⟩, octets, rfl⟩ := Option.map_eq_some_iff.mp v4
      exact .v4 (octets?_iff.mp octets)
    · exact spells_of_v6? v6
  · intro h
    cases a with
    | v4 a b c d =>
      have octets := octets?_iff.mpr (spells_v4_iff.mp h)
      exact .inl (by rw [octets, Option.map_some])
    | v6 groups =>
      have notV4 : octets? s.toList = none := by
        cases found : octets? s.toList with
        | none => rfl
        | some octets => exact absurd (colon_mem_of_spells h) (octets?_no_colon found)
      exact .inr ⟨by rw [notV4, Option.map_none], v6?_of_spells h⟩

/-- The grammar gives a text at most one value. -/
theorem Grammar.Spells.unique {a b : Ip} (h : Spells cs a) (h' : Spells cs b) : a = b := by
  rw [← String.toList_ofList (l := cs)] at h h'
  exact Option.some.inj ((ofText?_iff.mpr h).symm.trans (ofText?_iff.mpr h'))

end

end DeviceOnboard.Ip
