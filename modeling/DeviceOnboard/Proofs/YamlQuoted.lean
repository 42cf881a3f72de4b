import DeviceOnboard.Proofs.YamlPlain

/-!
# Reading quoted scalars back

In single quotes only quotes are written in another way, but lines are indented. In double quotes
there is only one line, and everything that does not print is escaped.
-/
namespace DeviceOnboard.Yaml

/-! ## Scalars in single quotes -/

theorem readSingle_space (column : Nat) (gap : Gap) (cs : List Char) :
    readSingle column gap false (' ' :: cs) =
      readSingle (column + 1) (gap.blank ' ') false cs :=
  if_pos rfl

theorem readSingle_spaces (n column : Nat) (b : Char) (bs cs : List Char) :
    readSingle column (.lines b bs) false (spaces n ++ cs) =
      readSingle (column + n) (.lines b bs) false cs := by
  induction n generalizing column with
  | zero => rfl
  | succ n ih =>
    rw [spaces_succ_append, readSingle_space, Gap.blank, ih]
    congr 1
    omega

theorem not_blank_of_break {c : Char} (lineBreak : isBreak c) : isBlank c = false := by
  simp only [isBlank, Bool.or_eq_false_iff, decide_eq_false_iff_not]
  constructor <;> rintro rfl <;> exact absurd lineBreak (by decide)

theorem readSingle_break {c : Char} (lineBreak : isBreak c) (column : Nat) (gap : Gap)
    (cs : List Char) :
    readSingle column gap false (c :: cs) = readSingle 0 (gap.newLine c) false cs :=
  (if_neg (by simp [not_blank_of_break lineBreak])).trans (if_pos lineBreak)

/-- Behind the first column no line looks like the start of a document. -/
theorem not_marker {gap : Gap} {column : Nat} (inside : gap.isLines → 0 < column)
    (cs : List Char) : ¬ (gap.isLines && column = 0 && atMarker cs) = true := by
  simp only [Bool.and_eq_true, decide_eq_true_eq]
  rintro ⟨⟨lines, first⟩, -⟩
  have := inside lines
  omega

/-- A quote is kept in mind until the next character is read. -/
theorem readSingle_quote {column : Nat} {gap : Gap} (inside : gap.isLines → 0 < column)
    (cs : List Char) :
    readSingle column gap false ('\'' :: cs) = readSingle (column + 1) gap true cs :=
  (if_neg (by decide)).trans ((if_neg (by decide)).trans
    ((if_neg (not_marker inside _)).trans (if_pos rfl)))

/-- A character is read with the gap in front of it; a quote is written twice. -/
theorem readSingle_char {c : Char} (text : isText c) {column : Nat} {gap : Gap}
    (inside : gap.isLines → 0 < column) (cs : List Char) :
    ∃ next, readSingle column gap false ((if c = '\'' then ['\'', '\''] else [c]) ++ cs) =
      Scan.after (gap.text ++ [c]) (readSingle next .empty false cs) := by
  by_cases quote : c = '\''
  · refine ⟨column + 1 + 1, ?_⟩
    rw [if_pos quote, quote, List.cons_append, readSingle_quote inside, List.cons_append,
      List.nil_append]
    exact if_pos rfl
  · refine ⟨column + 1, ?_⟩
    rw [if_neg quote, List.singleton_append]
    exact (if_neg (by simp [not_blank_of_text text])).trans
      ((if_neg (by simp [not_break_of_text text])).trans
        ((if_neg (not_marker inside _)).trans (if_neg quote)))

theorem readSingle_end {column : Nat} {gap : Gap} (inside : gap.isLines → 0 < column)
    {rest : List Char} (ends : rest.head? ≠ some '\'') :
    readSingle column gap false ('\'' :: rest) = some (gap.text, ⟨column + 1, false, rest⟩) := by
  rw [readSingle_quote inside]
  cases rest with
  | nil => rfl
  | cons c cs => exact if_neg (by rintro rfl; exact ends rfl)

theorem singleBody_break {c : Char} (lineBreak : isBreak c) (indent : Nat) (afterBreak : Bool)
    (cs : List Char) :
    singleBody indent afterBreak (c :: cs) = c :: singleBody indent true cs :=
  if_pos lineBreak

theorem singleBody_text {c : Char} (noBreak : isBreak c = false) (indent : Nat) (afterBreak : Bool)
    (cs : List Char) :
    singleBody indent afterBreak (c :: cs) = (if afterBreak then spaces indent else []) ++
      (if c = '\'' then ['\'', '\''] else [c]) ++ singleBody indent false cs :=
  if_neg (by simp [noBreak])

/-- Characters in single quotes are read back, both within a line and at the start of one. -/
theorem readSingle_chars {indent : Nat} (deep : 0 < indent) {rest : List Char}
    (ends : rest.head? ≠ some '\'') (cs : List Char) (prints : cs.all isPrintable)
    (noLineFeed : '\n' ∉ cs) (noTrailing : hasPair (· = ' ') isBreak cs = false)
    (noLeading : hasPair isBreak (· = ' ') cs = false) :
    (∀ (ws : List Char) (column : Nat), (ws ≠ [] → cs.head?.any isBreak = false) →
      ∃ next, readSingle column (.blanks ws) false (singleBody indent false cs ++ '\'' :: rest) =
        some (ws ++ cs, ⟨next, false, rest⟩)) ∧
    (∀ (b : Char) (bs : List Char), b ≠ '\n' → cs.head? ≠ some ' ' →
      ∃ next, readSingle 0 (.lines b bs) false (singleBody indent true cs ++ '\'' :: rest) =
        some (b :: bs ++ cs, ⟨next, false, rest⟩)) := by
  have withinLine (ws : List Char) (column : Nat) : Gap.isLines (.blanks ws) → 0 < column := by
    simp [Gap.isLines]
  induction cs with
  | nil =>
    constructor
    · intro ws column _
      rw [List.append_nil]
      exact ⟨column + 1, readSingle_end (withinLine ws column) ends⟩
    · intro b bs notLineFeed _
      refine ⟨indent + 1, ?_⟩
      change readSingle 0 _ false (spaces indent ++ '\'' :: rest) = _
      rw [readSingle_spaces, Nat.zero_add, readSingle_end (fun _ => deep) ends]
      simp [Gap.text, notLineFeed]
  | cons c cs ih =>
    simp only [List.all_cons, Bool.and_eq_true] at prints
    simp only [List.mem_cons, not_or] at noLineFeed
    have trailing : (c = ' ' → cs.head?.any isBreak = false) ∧
        hasPair (· = ' ') isBreak cs = false := by
      cases cs with
      | nil => simp [hasPair]
      | cons d ds => simpa [hasPair] using noTrailing
    have leading : (isBreak c → cs.head? ≠ some ' ') ∧
        hasPair isBreak (· = ' ') cs = false := by
      cases cs with
      | nil => simp [hasPair]
      | cons d ds => simpa [hasPair] using noLeading
    obtain ⟨inLine, atStart⟩ := ih prints.2 noLineFeed.2 trailing.2 leading.2
    by_cases lineBreak : isBreak c
    · constructor
      · intro ws column noBlanks
        have blanks : ws = [] := by
          by_cases blank : ws = []
          · exact blank
          · simp [lineBreak] at noBlanks
            exact noBlanks
        obtain ⟨next, read⟩ := atStart c [] (fun h => noLineFeed.1 h.symm) (leading.1 lineBreak)
        refine ⟨next, ?_⟩
        rw [singleBody_break lineBreak, List.cons_append, readSingle_break lineBreak]
        simpa [Gap.newLine, blanks] using read
      · intro b bs notLineFeed _
        obtain ⟨next, read⟩ := atStart b (bs ++ [c]) notLineFeed (leading.1 lineBreak)
        refine ⟨next, ?_⟩
        rw [singleBody_break lineBreak, List.cons_append, readSingle_break lineBreak]
        simpa [Gap.newLine] using read
    · have noBreak : isBreak c = false := by simpa using lineBreak
      have character (afterBreak : Bool) : singleBody indent afterBreak (c :: cs) =
          (if afterBreak then spaces indent else []) ++
            ((if c = '\'' then ['\'', '\''] else [c]) ++ singleBody indent false cs) := by
        rw [singleBody_text noBreak, List.append_assoc]
      constructor
      · intro ws column _
        rw [character]
        rcases space_or_text prints.1 noBreak with rfl | text
        · obtain ⟨next, read⟩ := inLine (ws ++ [' ']) (column + 1) (fun _ => trailing.1 rfl)
          refine ⟨next, ?_⟩
          rw [List.append_assoc] at read
          exact (readSingle_space column (.blanks ws) _).trans read
        · obtain ⟨column', char⟩ := readSingle_char text (withinLine ws column)
            (singleBody indent false cs ++ '\'' :: rest)
          obtain ⟨next, read⟩ := inLine [] column' (fun h => absurd rfl h)
          refine ⟨next, ?_⟩
          rw [if_neg (by simp), List.nil_append, List.append_assoc, char, Gap.empty, read]
          simp [Gap.text]
      · intro b bs notLineFeed notSpace
        rw [character]
        have text : isText c :=
          (space_or_text prints.1 noBreak).resolve_left fun space => notSpace (by simp [space])
        have inside : Gap.isLines (.lines b bs) → 0 < indent := fun _ => deep
        obtain ⟨column', char⟩ := readSingle_char text inside
          (singleBody indent false cs ++ '\'' :: rest)
        obtain ⟨next, read⟩ := inLine [] column' (fun h => absurd rfl h)
        refine ⟨next, ?_⟩
        rw [if_pos rfl, List.append_assoc, readSingle_spaces, Nat.zero_add, List.append_assoc, char,
          Gap.empty, read]
        simp [Gap.text, notLineFeed]

theorem all_spaces (n : Nat) : (spaces n).all isPrintable := by
  rw [spaces, List.all_eq_true]
  intro c member
  rw [List.eq_of_mem_replicate member]
  rfl

theorem singleBody_prints (indent : Nat) {cs : List Char} (prints : cs.all isPrintable) :
    ∀ afterBreak, (singleBody indent afterBreak cs).all isPrintable := by
  induction cs with
  | nil =>
    intro afterBreak
    cases afterBreak
    · rfl
    · exact all_spaces indent
  | cons c cs ih =>
    intro afterBreak
    simp only [List.all_cons, Bool.and_eq_true] at prints
    have char : (if c = '\'' then ['\'', '\''] else [c]).all isPrintable := by
      split
      · rfl
      · simp [prints.1]
    by_cases lineBreak : isBreak c
    · rw [singleBody_break lineBreak]
      simp [prints.1, ih prints.2]
    · rw [singleBody_text (by simpa using lineBreak)]
      cases afterBreak <;> simp only [if_true, Bool.false_eq_true, if_false, List.all_append,
        all_spaces, char, ih prints.2] <;> rfl

/-! ## Digits -/

/-- One more digit of a number. -/
def digitStep (base : Nat) (n : Option Nat) (c : Char) : Option Nat :=
  n.bind fun n => (digitIn? base c).map (n * base + ·)

theorem foldl_digitStep_none (base : Nat) (cs : List Char) :
    cs.foldl (digitStep base) none = none := by
  induction cs with
  | nil => rfl
  | cons c cs ih => exact ih

theorem digitsIn?_of_ne_nil {cs : List Char} (nonempty : cs ≠ []) (base : Nat) :
    digitsIn? base cs = cs.foldl (digitStep base) (some 0) := by
  cases cs with
  | nil => exact absurd rfl nonempty
  | cons c cs => rfl

/-- The digits of a number in a base, in letters of either case, stand for the number. -/
theorem foldl_toDigits {base : Nat} (valid : 1 < base) (letter : Char → Char)
    (digit : ∀ d < base, digitIn? base (letter (Nat.digitChar d)) = some d) (n : Nat) :
    ((Nat.toDigits base n).map letter).foldl (digitStep base) (some 0) = some n := by
  induction n using Nat.strongRecOn with
  | ind n ih =>
    by_cases small : n < base
    · rw [Nat.toDigits_of_lt_base small]
      simp [digitStep, digit n small]
    · have shorter := ih (n / base) (Nat.div_lt_self (by omega) valid)
      have last := digit (n % base) (Nat.mod_lt _ (by omega))
      rw [Nat.toDigits_of_base_le valid (by omega), List.map_append, List.foldl_append, shorter]
      simp only [List.map_cons, List.map_nil, List.foldl_cons, List.foldl_nil, digitStep,
        Option.bind_some, last, Option.map_some, Option.some.injEq]
      exact Nat.div_add_mod' n base

theorem mem_toDigits {base : Nat} (valid : 1 < base) {n : Nat} {c : Char}
    (member : c ∈ Nat.toDigits base n) : ∃ d < base, c = Nat.digitChar d := by
  induction n using Nat.strongRecOn with
  | ind n ih =>
    by_cases small : n < base
    · rw [Nat.toDigits_of_lt_base small, List.mem_singleton] at member
      exact ⟨n, small, member⟩
    · rw [Nat.toDigits_of_base_le valid (by omega), List.mem_append, List.mem_singleton] at member
      rcases member with front | last
      · exact ih (n / base) (Nat.div_lt_self (by omega) valid) front
      · exact ⟨n % base, Nat.mod_lt _ (by omega), last⟩

theorem foldl_zeros (k : Nat) :
    (List.replicate k '0').foldl (digitStep 16) (some 0) = some 0 := by
  induction k with
  | zero => rfl
  | succ k ih =>
    rw [List.replicate_succ, List.foldl_cons]
    exact ih

theorem foldl_hexDigits (width n : Nat) :
    (hexDigits width n).foldl (digitStep 16) (some 0) = some n := by
  rw [hexDigits, List.foldl_append, foldl_zeros]
  exact foldl_toDigits (by omega) Char.toUpper (by decide) n

theorem length_hexDigits {width n : Nat} (positive : 0 < width) (fits : n < Nat.pow 16 width) :
    (hexDigits width n).length = width := by
  have short := (Nat.length_toDigits_le_iff (b := 16) (by omega) positive).mpr fits
  simp only [hexDigits, List.length_append, List.length_replicate, List.length_map]
  omega

theorem hexDigits_prints (width n : Nat) : (hexDigits width n).all isPrintable := by
  have digit : ∀ d < 16, isPrintable (Nat.digitChar d).toUpper := by decide
  rw [hexDigits, List.all_append, Bool.and_eq_true, List.all_eq_true, List.all_eq_true]
  constructor
  · intro c zero
    rw [List.eq_of_mem_replicate zero]
    rfl
  · intro c member
    obtain ⟨x, digits, rfl⟩ := List.mem_map.mp member
    obtain ⟨d, small, rfl⟩ := mem_toDigits (show 1 < 16 by decide) digits
    exact digit d small

/-! ## Scalars in double quotes -/

theorem readDouble_space (column : Nat) (ws cs : List Char) :
    readDouble column (.blanks ws) .none (' ' :: cs) =
      readDouble (column + 1) (.blanks (ws ++ [' '])) .none cs :=
  if_pos rfl

theorem readDouble_text {c : Char} (text : isText c) (noQuote : c ≠ '"') (noEscape : c ≠ '\\')
    (column : Nat) (ws cs : List Char) :
    readDouble column (.blanks ws) .none (c :: cs) =
      Scan.after (ws ++ [c]) (readDouble (column + 1) .empty .none cs) :=
  (if_neg (by simp [not_blank_of_text text])).trans
    ((if_neg (by simp [not_break_of_text text])).trans
      ((if_neg (by simp [Gap.isLines])).trans ((if_neg noQuote).trans (if_neg noEscape))))

theorem readDouble_backslash (column : Nat) (ws cs : List Char) :
    readDouble column (.blanks ws) .none ('\\' :: cs) =
      Scan.after ws (readDouble (column + 1) .empty .letter cs) :=
  (if_neg (by decide)).trans ((if_neg (by decide)).trans
    ((if_neg (by simp [Gap.isLines])).trans ((if_neg (by decide)).trans (if_pos rfl))))

theorem readDouble_end (column : Nat) (ws rest : List Char) :
    readDouble column (.blanks ws) .none ('"' :: rest) = some (ws, ⟨column + 1, false, rest⟩) :=
  (if_neg (by decide)).trans ((if_neg (by decide)).trans
    ((if_neg (by simp [Gap.isLines])).trans (if_pos rfl)))

/-- A letter that a character is escaped by stands for that character. -/
theorem shortEscape?_spec {c e : Char} (escaped : shortEscape? c = some e) :
    escapeWidth? e = none ∧ unescape? e = some c ∧ isPrintable e := by
  have all : ∀ p ∈ [('\x00', '0'), ('\x07', 'a'), ('\x08', 'b'), ('\t', 't'), ('\n', 'n'),
      ('\x0b', 'v'), ('\x0c', 'f'), ('\r', 'r'), ('\x1b', 'e'), ('"', '"'), ('\\', '\\'),
      ('\x85', 'N'), ('\u2028', 'L'), ('\u2029', 'P')],
      escapeWidth? p.2 = none ∧ unescape? p.2 = some p.1 ∧ isPrintable p.2 := by decide
  obtain ⟨front, back, list, -⟩ := List.lookup_eq_some_iff.mp escaped
  exact all (c, e) (by rw [list]; simp)

theorem readDouble_short {c e : Char} (escaped : shortEscape? c = some e) (column : Nat)
    (ws cs : List Char) :
    readDouble column (.blanks ws) .none (['\\', e] ++ cs) =
      Scan.after (ws ++ [c]) (readDouble (column + 2) .empty .none cs) := by
  obtain ⟨width, letter, -⟩ := shortEscape?_spec escaped
  rw [List.cons_append, readDouble_backslash, List.singleton_append, readDouble, width, letter]
  simp

theorem readDouble_digits {n : Nat} (valid : n.isValidChar) (ds cs : List Char) :
    ∀ (value column : Nat), ds ≠ [] → ds.foldl (digitStep 16) (some value) = some n →
      readDouble column .empty (.digits ds.length value) (ds ++ cs) =
        Scan.after [Char.ofNat n] (readDouble (column + ds.length) .empty .none cs) := by
  induction ds with
  | nil => exact fun _ _ nonempty => absurd rfl nonempty
  | cons d ds ih =>
    intro value column _ number
    rw [List.foldl_cons] at number
    cases digit : digitIn? 16 d with
    | none =>
      simp [digitStep, digit, foldl_digitStep_none] at number
    | some k =>
      simp only [digitStep, Option.bind_some, digit, Option.map_some] at number
      rw [List.cons_append, readDouble, digit]
      cases ds with
      | nil =>
        simp only [List.foldl_nil, Option.some.injEq] at number
        simp [number, valid]
      | cons e ds =>
        have read := ih (value * 16 + k) (column + 1) (by simp) number
        simp only [List.length_cons, Option.bind_eq_bind, Option.bind_some] at read ⊢
        rw [if_pos (by omega)]
        simpa [Nat.add_assoc, Nat.add_comm 1] using read

theorem readDouble_hex {c l : Char} {width : Nat} (letter : escapeWidth? l = some width)
    (positive : 0 < width) (fits : c.toNat < Nat.pow 16 width) (column : Nat) (ws cs : List Char) :
    ∃ next, readDouble column (.blanks ws) .none ((['\\', l] ++ hexDigits width c.toNat) ++ cs) =
      Scan.after (ws ++ [c]) (readDouble next .empty .none cs) := by
  have length := length_hexDigits positive fits
  have nonempty : hexDigits width c.toNat ≠ [] := by
    intro h
    rw [h] at length
    simp at length
    omega
  have valid : c.toNat.isValidChar := c.valid
  have read := readDouble_digits valid (hexDigits width c.toNat) cs 0 (column + 2) nonempty
    (foldl_hexDigits width c.toNat)
  refine ⟨column + 2 + width, ?_⟩
  rw [length, Char.ofNat_toNat] at read
  simp only [List.cons_append, List.nil_append]
  rw [readDouble_backslash, readDouble, letter]
  simp only [read, Scan.after_after]

/-- A character that is not a space is read back from how it is written. -/
theorem readDouble_char {c : Char} (notSpace : c ≠ ' ') (column : Nat) (ws cs : List Char) :
    ∃ next, readDouble column (.blanks ws) .none (doubleChar c ++ cs) =
      Scan.after (ws ++ [c]) (readDouble next .empty .none cs) := by
  unfold doubleChar
  split
  · rename_i e escaped
    exact ⟨column + 2, readDouble_short escaped column ws cs⟩
  · rename_i plain
    have other : ∀ d, shortEscape? d ≠ none → c ≠ d := by
      rintro d escaped rfl
      exact escaped plain
    split
    · have noBreak : isBreak c = false := by
        simp only [isBreak, Bool.or_eq_false_iff, decide_eq_false_iff_not]
        exact ⟨⟨⟨⟨other _ (by decide), other _ (by decide)⟩, other _ (by decide)⟩,
          other _ (by decide)⟩, other _ (by decide)⟩
      rename_i prints
      have text := (space_or_text prints noBreak).resolve_left notSpace
      have noQuote := other '"' (by decide)
      have noEscape := other '\\' (by decide)
      exact ⟨column + 1, readDouble_text text noQuote noEscape column ws cs⟩
    · split
      · rename_i small
        exact readDouble_hex (by decide) (by decide) small column ws cs
      · split
        · rename_i small
          exact readDouble_hex (by decide) (by decide) small column ws cs
        · have small : c.toNat < Nat.pow 16 8 := by
            have := c.valid
            simp only [UInt32.isValidChar, Nat.isValidChar] at this
            change c.val.toNat < 4294967296
            omega
          exact readDouble_hex (by decide) (by decide) small column ws cs

theorem doubleChar_prints (c : Char) : (doubleChar c).all isPrintable := by
  unfold doubleChar
  split
  · rename_i e escaped
    simp [(shortEscape?_spec escaped).2.2]
    decide
  · split
    · rename_i prints
      simp [prints]
    · split
      · simp [hexDigits_prints]
        decide
      · split
        · simp [hexDigits_prints]
          decide
        · simp [hexDigits_prints]
          decide

/-- Characters in double quotes are read back. -/
theorem readDouble_chars (rest cs : List Char) :
    ∀ (ws : List Char) (column : Nat),
      ∃ next, readDouble column (.blanks ws) .none (cs.flatMap doubleChar ++ '"' :: rest) =
        some (ws ++ cs, ⟨next, false, rest⟩) := by
  induction cs with
  | nil =>
    intro ws column
    rw [List.flatMap_nil, List.nil_append, List.append_nil]
    exact ⟨column + 1, readDouble_end column ws rest⟩
  | cons c cs ih =>
    intro ws column
    by_cases space : c = ' '
    · obtain ⟨next, read⟩ := ih (ws ++ [' ']) (column + 1)
      have plain : doubleChar ' ' = [' '] := by decide
      refine ⟨next, ?_⟩
      rw [space, List.flatMap_cons, plain, List.singleton_append, List.cons_append,
        readDouble_space, read, List.append_assoc, List.singleton_append]
    · obtain ⟨column', char⟩ := readDouble_char space column ws
        (cs.flatMap doubleChar ++ '"' :: rest)
      obtain ⟨next, read⟩ := ih [] column'
      refine ⟨next, ?_⟩
      rw [List.flatMap_cons, List.append_assoc, char, Gap.empty, read]
      simp

end DeviceOnboard.Yaml
