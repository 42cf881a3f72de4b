import DeviceOnboard.Proofs.YamlStrings

/-!
# Reading leaves and keys back

Numbers, truth values and strings as nodes of a document, and the names that are its keys. The text
of a number is never taken for anything else.
-/
namespace DeviceOnboard.Yaml

/-! ## Words -/

/-- Letters, digits and underscores. -/
def isWordChar (c : Char) : Bool := c.isAlphanum || c = '_'

theorem isWordChar_of_isDigit {c : Char} (digit : c.isDigit) : isWordChar c := by
  simp [isWordChar, Char.isAlphanum, digit]

theorem range_of_isAlpha {c : Char} (letter : c.isAlpha) :
    (65 ≤ c.toNat ∧ c.toNat ≤ 90) ∨ (97 ≤ c.toNat ∧ c.toNat ≤ 122) := by
  change (decide ('A'.val ≤ c.val ∧ c.val ≤ 'Z'.val) ||
    (decide ('a'.val ≤ c.val) && decide (c.val ≤ 'z'.val))) = true at letter
  simpa [UInt32.le_iff_toNat_le] using letter

theorem range_of_isDigit {c : Char} (digit : c.isDigit) : 48 ≤ c.toNat ∧ c.toNat ≤ 57 :=
  Char.isDigit_iff_toNat.mp digit

theorem isPrintable_of_isWordChar {c : Char} (word : isWordChar c) : isPrintable c := by
  have cases : (c.isAlpha ∨ c.isDigit) ∨ c = '_' := by
    simpa [isWordChar, Char.isAlphanum] using word
  simp only [isPrintable, Bool.or_eq_true, Bool.and_eq_true, decide_eq_true_eq]
  rcases cases with (alpha | digit) | rfl
  · have range := range_of_isAlpha alpha
    omega
  · have range := range_of_isDigit digit
    omega
  · decide

theorem hasPair_of_none (p q : Char → Bool) {cs : List Char} (none : ∀ c ∈ cs, p c = false) :
    hasPair p q cs = false := by
  induction cs with
  | nil => rfl
  | cons c cs ih =>
    cases cs with
    | nil => rfl
    | cons d ds =>
      rw [hasPair, none c List.mem_cons_self, ih fun x member => none x (by simp [member])]
      rfl

theorem hasInnerIndicator_of_none {cs : List Char} (none : ∀ c ∈ cs, c ≠ ':' ∧ c ≠ '#') :
    ∀ before, hasInnerIndicator before cs = false := by
  induction cs with
  | nil => exact fun _ => rfl
  | cons c cs ih =>
    intro before
    obtain ⟨noColon, noComment⟩ := none c List.mem_cons_self
    rw [hasInnerIndicator, ih fun x member => none x (List.mem_cons_of_mem _ member)]
    simp [noColon, noComment]

/-- A word may stand as it is. -/
theorem bare_word {cs : List Char} (nonempty : cs ≠ []) (word : ∀ c ∈ cs, isWordChar c) :
    Bare cs := by
  have noBreak : ∀ c ∈ cs, isBreak c = false := by
    intro c member
    have isNot (d : Char) (other : isWordChar d = false) := ne_of_class (word c member) other
    simp only [isBreak, Bool.or_eq_false_iff, decide_eq_false_iff_not]
    exact ⟨⟨⟨⟨isNot _ (by decide), isNot _ (by decide)⟩, isNot _ (by decide)⟩,
      isNot _ (by decide)⟩, isNot _ (by decide)⟩
  have noSpace : ∀ c ∈ cs, (c = ' ' : Bool) = false := by
    intro c member
    simpa using ne_of_class (d := ' ') (word c member) (by decide)
  have single : allowsSingle cs := by
    simp only [allowsSingle, hasPair_of_none _ _ noSpace, hasPair_of_none _ _ noBreak]
    simpa using fun c member => isPrintable_of_isWordChar (word c member)
  have indicator : hasIndicator cs = false := by
    cases cs with
    | nil => rfl
    | cons c rest =>
      have isNot (d : Char) (other : isWordChar d = false) : c ≠ d :=
        ne_of_class (word c List.mem_cons_self) other
      have marker : startsWithMarker (c :: rest) = false := by
        simp [startsWithMarker, isNot, isWordChar]
      have start : startsWithIndicator (c :: rest) = false := by
        simp [startsWithIndicator, isIndicator, isNot, isWordChar]
      have inner : hasInnerIndicator c rest = false := by
        refine hasInnerIndicator_of_none (fun d member => ?_) c
        have isNot := word d (List.mem_cons_of_mem _ member)
        exact ⟨ne_of_class isNot (by decide), ne_of_class isNot (by decide)⟩
      simp [hasIndicator, marker, start, inner]
  have edge : ∀ c ∈ cs, isSpaceOrBreak c = false := by
    intro c member
    simp only [isSpaceOrBreak, noSpace c member, noBreak c member, Bool.or_self]
  refine ⟨nonempty, ?_⟩
  simp only [allowsPlain, single, indicator, Bool.not_false, Bool.and_self, Bool.true_and,
    List.head?_eq_some_head nonempty, List.getLast?_eq_some_getLast nonempty, Option.any_some,
    edge _ (List.head_mem nonempty), edge _ (List.getLast_mem nonempty), Bool.and_true]
  simpa using noBreak

/-- The first digit of a number is not a zero, unless the number is. -/
theorem head_toDigits (n : Nat) (positive : 0 < n) : (Nat.toDigits 10 n).head? ≠ some '0' := by
  induction n using Nat.strongRecOn with
  | ind n ih =>
    by_cases small : n < 10
    · rw [Nat.toDigits_of_lt_base small]
      have all : ∀ d < 10, 0 < d → [Nat.digitChar d].head? ≠ some '0' := by decide
      exact all n small positive
    · have front := ih (n / 10) (by omega) (by omega)
      have nonempty : Nat.toDigits 10 (n / 10) ≠ [] := by
        rw [← List.length_pos_iff]
        exact Nat.length_toDigits_pos
      rw [Nat.toDigits_of_base_le (by omega) (by omega), List.head?_append]
      cases h : Nat.toDigits 10 (n / 10) with
      | nil => exact absurd h nonempty
      | cons d ds => simpa [h] using front

theorem ofList_ne_of_digits {cs : List Char} (digits : ∀ c ∈ cs, c.isDigit) {word : String}
    (other : word.toList.all Char.isDigit = false) : String.ofList cs ≠ word := by
  rintro rfl
  rw [String.toList_ofList, List.all_eq_false] at other
  obtain ⟨c, member, notDigit⟩ := other
  exact notDigit (digits c member)

theorem magnitude?_digits {cs : List Char} (digits : ∀ c ∈ cs, c.isDigit) :
    magnitude? cs = digitsIn? 10 cs := by
  unfold magnitude?
  split
  · exact absurd (digits 'x' (by simp)) (by decide)
  · exact absurd (digits 'o' (by simp)) (by decide)
  · exact absurd (digits 'b' (by simp)) (by decide)
  · rfl

theorem integer?_digits {cs : List Char} (digits : ∀ c ∈ cs, c.isDigit) {n : Nat}
    (number : digitsIn? 10 cs = some n) (fits : n < Nat.pow 2 128) : integer? cs = some n := by
  unfold integer?
  split
  · exact absurd (digits '-' (by simp)) (by decide)
  · exact absurd (digits '+' (by simp)) (by decide)
  · rw [magnitude?_digits digits, number, Option.filter_some_pos (by simpa using fits)]
    rfl

theorem isZeroPadded_toDigits (n : Nat) :
    isZeroPadded (String.ofList (Nat.toDigits 10 n)) = false := by
  have digits : ∀ c ∈ Nat.toDigits 10 n, c.isDigit := fun c member =>
    Nat.isDigit_of_mem_toDigits (by omega) (by omega) member
  by_cases zero : n = 0
  · subst zero
    decide
  · have front := head_toDigits n (by omega)
    simp only [isZeroPadded, String.toList_ofList]
    generalize Nat.toDigits 10 n = cs at digits front
    match cs with
    | [] => rfl
    | c :: rest =>
      have noMinus : c ≠ '-' := ne_of_class (digits c List.mem_cons_self) (by decide)
      have noPlus : c ≠ '+' := ne_of_class (digits c List.mem_cons_self) (by decide)
      have noZero : c ≠ '0' := by simpa using front
      simp [noMinus, noPlus, noZero]

/-- Numbers are read as numbers. -/
theorem resolve_digits {n : Nat} (fits : n < Nat.pow 2 128) :
    resolve (String.ofList (Nat.toDigits 10 n)) = some (.int n) := by
  have digits : ∀ c ∈ Nat.toDigits 10 n, c.isDigit := fun c member =>
    Nat.isDigit_of_mem_toDigits (by omega) (by omega) member
  have nonempty : Nat.toDigits 10 n ≠ [] := by
    rw [← List.length_pos_iff]
    exact Nat.length_toDigits_pos
  have number : digitsIn? 10 (Nat.toDigits 10 n) = some n := by
    rw [digitsIn?_of_ne_nil nonempty]
    simpa using foldl_toDigits (by omega) id (by decide) n
  have isNot (word : String) (other : word.toList.all Char.isDigit = false) :=
    ofList_ne_of_digits digits other
  simp [resolve, nonempty, isNullWord, isBoolWord, isNot, isZeroPadded_toDigits,
    integer?_digits digits number fits]

/-! ## Scalars as nodes -/

/-- Whether a scalar starts here. -/
def startsScalar (cs : List Char) : Bool :=
  startsPlain cs || cs.head? = some '\'' || cs.head? = some '"' || cs.head? = some '|'

/-- What the first character of a scalar is not. -/
theorem startsScalar_parts {cs : List Char} (starts : startsScalar cs) :
    ∃ c rest, cs = c :: rest ∧ startsToken c ∧ c ≠ '[' ∧ c ≠ '\x7b' ∧
      startsWord cs '-' = false := by
  cases cs with
  | nil => exact absurd starts (by decide)
  | cons c rest =>
    refine ⟨c, rest, rfl, ?_⟩
    simp only [startsScalar, List.head?_cons, Option.some.injEq, Bool.or_eq_true,
      decide_eq_true_eq] at starts
    rcases starts with ((plain | rfl) | rfl) | rfl
    · rw [startsPlain] at plain
      split at plain
      · rename_i special
        simp only [Bool.or_eq_true, decide_eq_true_eq] at special
        rcases special with (rfl | rfl) | rfl
        · refine ⟨by decide, by decide, by decide, ?_⟩
          simpa [startsWord] using plain
        · exact ⟨by decide, by decide, by decide, rfl⟩
        · exact ⟨by decide, by decide, by decide, rfl⟩
      · rename_i usual
        simp only [Bool.or_eq_true, decide_eq_true_eq, not_or] at usual
        simp at plain
        obtain ⟨⟨blank, lineBreak⟩, list⟩ := plain
        simp [startsToken, startsWord, blank, lineBreak, list, usual]
    · exact ⟨by decide, by decide, by decide, rfl⟩
    · exact ⟨by decide, by decide, by decide, rfl⟩
    · exact ⟨by decide, by decide, by decide, rfl⟩

/-- A text in a line of its own that is read as a scalar within a mapping or list at the depth. -/
structure ScalarText (depth : Nat) (text : List Char) (v : Yaml) : Prop where
  starts : ∀ tail, startsScalar (text ++ tail)
  reads : ∀ {tail}, Tail depth tail → ∀ (column : Nat) (keys : Bool), 0 < column →
    readScalar (depth + 1) ⟨column, keys, text ++ tail⟩ = some (v, afterBreak tail)
  prints : text.all isPrintable

theorem scalarText_bare {cs : List Char} {v : Yaml} (bare : Bare cs)
    (resolves : resolve (String.ofList cs) = some v) (depth : Nat) :
    ScalarText depth (cs ++ ['\n']) v where
  starts tail := by
    rw [List.append_assoc, startsScalar, bare.startsPlain]
    rfl
  reads follows column keys inside := by
    simpa using readScalar_bare bare resolves follows (Nat.lt_succ_self depth) inside keys
  prints := by
    rw [List.all_append, bare.prints]
    decide

theorem scalarText_bool (b : Bool) (depth : Nat) :
    ScalarText depth ((if b then "true" else "false").toList ++ ['\n']) (.bool b) := by
  cases b with
  | false => exact scalarText_bare ⟨by decide, by decide⟩ (by rfl) depth
  | true => exact scalarText_bare ⟨by decide, by decide⟩ (by rfl) depth

theorem scalarText_nat {n : Nat} (fits : n < Nat.pow 2 128) (depth : Nat) :
    ScalarText depth ((toString (n : Int)).toList ++ ['\n']) (.int n) := by
  have nonempty : Nat.toDigits 10 n ≠ [] := by
    rw [← List.length_pos_iff]
    exact Nat.length_toDigits_pos
  have written : (toString (n : Int)).toList = Nat.toDigits 10 n := by
    change (toString n).toList = _
    simp
  have bare := bare_word nonempty fun c member =>
    isWordChar_of_isDigit (Nat.isDigit_of_mem_toDigits (by omega) (by omega) member)
  rw [written]
  exact scalarText_bare bare (resolve_digits fits) depth

theorem scalarText_string (s : String) (depth : Nat) :
    ScalarText depth (scalarLine (depth + 2) s) (.str s) where
  starts tail := by
    unfold scalarLine scalarText
    cases style : styleOf s with
    | plain => simp [startsScalar, (style_plain style).2.startsPlain]
    | single => simp [startsScalar]
    | double => simp [startsScalar]
    | literal => cases s.toList.getLast?.any isBreak <;> simp [startsScalar]
  reads follows column keys inside := readScalar_string follows inside keys s
  prints := scalarLine_prints (depth + 2) s

theorem skip_token {c : Char} (token : startsToken c) (column : Nat) (keys : Bool)
    (cs : List Char) : Place.skip ⟨column, keys, c :: cs⟩ = ⟨column, keys, c :: cs⟩ :=
  toToken_token token column keys cs

/-- On a line of its own no colon follows, so that a scalar there is not a key. -/
theorem Tail.not_key {depth : Nat} {tail : List Char} (follows : Tail depth tail) (p : Place) :
    p.isKey (afterBreak tail) = false := by
  have noColon : startsWord (afterBreak tail).rest ':' = false := by
    cases follows with
    | done => rfl
    | line shallow start =>
      rename_i column c cs
      rw [afterBreak_line start]
      have notColon : c ≠ ':' := by
        rintro rfl
        revert start
        decide
      simp [startsWord, notColon]
  simp [Place.isKey, noColon]

/-- Behind a node that is not as deep no key or item stands in a deeper column. -/
theorem Tail.not_line {depth column : Nat} {tail : List Char} (follows : Tail depth tail)
    (deeper : depth < column) : (afterBreak tail).isLine column = false := by
  cases follows with
  | done => simp [Place.isLine, afterBreak, toToken]
  | line shallow start =>
    rw [afterBreak_line start]
    simp [Place.isLine]
    omega

theorem Place.not_item {p : Place} {column : Nat} (noLine : p.isLine column = false) :
    p.isItem column = false := by
  simp [Place.isItem, noLine]

theorem readNode_scalar {depth : Nat} {text : List Char} {v : Yaml}
    (scalar : ScalarText depth text v) {tail : List Char} (follows : Tail depth tail)
    (fuel : Nat) {column : Nat} (deep : depth < column) (keys : Bool) :
    readNode (fuel + 1) (depth + 1) ⟨column, keys, text ++ tail⟩ = some (v, afterBreak tail) := by
  obtain ⟨c, rest, first, -, noList, noMap, noDash⟩ := startsScalar_parts (scalar.starts tail)
  have read := scalar.reads follows column keys (by omega)
  refine (if_neg (by simp; omega)).trans ((if_neg (by simp [noDash])).trans ?_)
  rw [first] at read ⊢
  split
  · rename_i list
    simp at list
    exact absurd list.1 noList
  · rename_i map
    simp at map
    exact absurd map.1 noMap
  · simp [read, follows.not_key]

/-! ## Keys -/

/-- A name that is written as it stands, and that is no longer than a key may be. -/
structure IsKey (key : String) : Prop where
  plain : styleOf key = .plain
  letter : key.toList.head?.any Char.isAlpha
  short : key.toList.length ≤ 1024

/-- A name that starts with a letter and goes on with letters, digits and underscores. -/
structure IsIdentifier (name : String) : Prop where
  word : name.toList.all isWordChar
  letter : name.toList.head?.any Char.isAlpha
  free : (isNullWord name || isBoolWord name) = false
  short : name.toList.length ≤ 1024

instance (name : String) : Decidable (IsIdentifier name) :=
  decidable_of_iff (name.toList.all isWordChar ∧ name.toList.head?.any Char.isAlpha ∧
      (isNullWord name || isBoolWord name) = false ∧ name.toList.length ≤ 1024)
    ⟨fun ⟨a, b, c, d⟩ => ⟨a, b, c, d⟩, fun ⟨a, b, c, d⟩ => ⟨a, b, c, d⟩⟩

theorem not_isDigit_of_isAlpha {c : Char} (letter : c.isAlpha) : c.isDigit = false := by
  have range := range_of_isAlpha letter
  rw [Bool.eq_false_iff, ne_eq, Char.isDigit_iff_toNat]
  change ¬ (48 ≤ c.toNat ∧ c.toNat ≤ 57)
  omega

theorem digitIn?_of_isAlpha {c : Char} (letter : c.isAlpha) : digitIn? 10 c = none := by
  have range := range_of_isAlpha letter
  have le (a b : Char) : a ≤ b ↔ a.toNat ≤ b.toNat := UInt32.le_iff_toNat_le
  simp only [digitIn?, le, Bool.and_eq_true, decide_eq_true_eq, Char.reduceToNat]
  have noDigit : ¬ (48 ≤ c.toNat ∧ c.toNat ≤ 57) := by omega
  rcases range with upper | lower
  · have notLower : ¬ (97 ≤ c.toNat ∧ c.toNat ≤ 122) := by omega
    rw [if_neg noDigit, if_neg notLower, if_pos upper, if_neg (by omega)]
  · rw [if_neg noDigit, if_pos lower, if_neg (by omega)]

/-- What starts with a letter is not a number. -/
theorem IsIdentifier.unquoted {name : String} (identifier : IsIdentifier name) :
    needsQuotes name = false := by
  have letter := identifier.letter
  have free := identifier.free
  cases chars : name.toList with
  | nil => simp [chars] at letter
  | cons c cs =>
    rw [chars, List.head?_cons, Option.any_some] at letter
    have isNot (d : Char) (other : d.isAlpha = false) : c ≠ d := ne_of_class letter other
    have empty : name ≠ "" := by
      rintro rfl
      simp at chars
    have noNumber : magnitude? (c :: cs) = none := by
      have noDigit : digitStep 10 (some 0) c = none := by
        simp [digitStep, digitIn?_of_isAlpha letter]
      simp [magnitude?, isNot, digitsIn?_of_ne_nil, noDigit, foldl_digitStep_none]
    have integer : isInteger name = false := by
      simp [isInteger, chars, isNot, noNumber]
    have padded : isZeroPadded name = false := by
      simp [isZeroPadded, chars, isNot]
    have point (word : String) (starts : word.toList.head? = some '.') : name ≠ word := by
      rintro rfl
      simp [chars, isNot] at starts
    have decimal : decimal? (c :: cs) = none := by
      simp [decimal?, not_isDigit_of_isAlpha letter, isNot]
    have float : isFloat name = false := by
      simp only [isFloat, isNanWord, isInfinityWord, chars]
      simp [isNot, decimal, point ".nan" rfl, point ".NaN" rfl, point ".NAN" rfl, point ".inf" rfl,
        point ".Inf" rfl, point ".INF" rfl]
    simp only [Bool.or_eq_false_iff] at free
    simp [needsQuotes, empty, free, integer, padded, float]

/-- An identifier can be a key. -/
theorem IsIdentifier.isKey {name : String} (identifier : IsIdentifier name) : IsKey name := by
  have word := identifier.word
  rw [List.all_eq_true] at word
  have nonempty : name.toList ≠ [] := by
    intro empty
    have letter := identifier.letter
    simp [empty] at letter
  have oneLine : '\n' ∉ name.toList := fun member => absurd (word '\n' member) (by decide)
  refine ⟨?_, identifier.letter, identifier.short⟩
  simp [styleOf, oneLine, identifier.unquoted, (bare_word nonempty word).allowed]

theorem IsKey.first {key : String} (isKey : IsKey key) :
    ∃ c cs, key.toList = c :: cs ∧ c.isAlpha := by
  have letter := isKey.letter
  cases first : key.toList with
  | nil => simp [first] at letter
  | cons c cs => exact ⟨c, cs, rfl, by simpa [first] using letter⟩

/-- A key is read up to its colon. -/
theorem readScalar_key {key : String} (isKey : IsKey key) {rest : List Char}
    (word : isBlankOrEnd rest.head?) (floor column : Nat) (keys : Bool) :
    readScalar floor ⟨column, keys, key.toList ++ ':' :: rest⟩ =
      some (.str key, ⟨column + key.toList.length, false, ':' :: rest⟩) := by
  obtain ⟨unquoted, bare⟩ := style_plain isKey.plain
  have noMarker : atMarker (key.toList ++ ':' :: rest) = false := by
    obtain ⟨c, cs, first, alpha⟩ := isKey.first
    have isNot (d : Char) (other : d.isAlpha = false) : c ≠ d := ne_of_class alpha other
    simp [first, atMarker, isNot]
  rw [readScalar_plain (bare.startsPlain _) (fun _ => noMarker), readPlain_bare bare,
    readPlain_colon floor _ word]
  simp [resolve_string unquoted, skip_token (c := ':') (by decide)]

theorem isKey_place {key : String} (isKey : IsKey key) {rest : List Char}
    (word : isBlankOrEnd rest.head?) (column next : Nat) :
    Place.isKey ⟨column, true, key.toList ++ ':' :: rest⟩ ⟨next, false, ':' :: rest⟩ := by
  have allowed := (style_plain isKey.plain).2.allowed
  simp only [allowsPlain, Bool.and_eq_true, Bool.not_eq_true'] at allowed
  have oneLine : key.toList.any isBreak = false := allowed.1.1.2
  have read : (key.toList ++ ':' :: rest).take
      ((key.toList ++ ':' :: rest).length - (':' :: rest).length) = key.toList := by
    rw [List.length_append, Nat.add_sub_cancel, List.take_left]
  simp only [Place.isKey, read, oneLine]
  simp [startsWord, word, isKey.short]

end DeviceOnboard.Yaml
