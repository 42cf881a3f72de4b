import DeviceOnboard.Proofs.YamlQuoted

/-!
# Reading strings back

Every string is read back from its scalar, in whichever style it is written. The lines of a literal
block are told from what follows by their indentation, and the breaks at its end by its header.
-/
namespace DeviceOnboard.Yaml

/-! ## Literal blocks -/

theorem not_space_of_break {c : Char} (lineBreak : isBreak c) : c ≠ ' ' := by
  rintro rfl
  exact absurd lineBreak (by decide)

section

variable (indent : Nat) (chomp : Chomp)

/-- A line break ends a line. -/
theorem readLiteral_first {b : Char} (lineBreak : isBreak b) (column : Nat) (cs : List Char) :
    readLiteral indent chomp column none (b :: cs) =
      readLiteral indent chomp 0 (some ⟨[b], []⟩) cs :=
  if_pos lineBreak

/-- Another line break is kept in mind. -/
theorem readLiteral_next {b : Char} (lineBreak : isBreak b) (column : Nat) (breaks : Breaks)
    (cs : List Char) :
    readLiteral indent chomp column (some breaks) (b :: cs) =
      readLiteral indent chomp 0 (some { breaks with others := breaks.others ++ [b] }) cs :=
  (if_neg (by simp [not_space_of_break lineBreak])).trans (if_pos lineBreak)

end

theorem readLiteral_spaces {indent : Nat} (chomp : Chomp) (b : Breaks) (cs : List Char) (n : Nat) :
    ∀ column, column + n ≤ indent →
      readLiteral indent chomp column (some b) (spaces n ++ cs) =
        readLiteral indent chomp (column + n) (some b) cs := by
  induction n with
  | zero => exact fun _ _ => rfl
  | succ n ih =>
    intro column fits
    have blank : readLiteral indent chomp column (some b) (' ' :: (spaces n ++ cs)) =
        readLiteral indent chomp (column + 1) (some b) (spaces n ++ cs) :=
      if_pos (by simp; omega)
    rw [spaces_succ_append, blank, ih (column + 1) (by omega)]
    congr 1
    omega

/-- Line breaks between two lines are kept in mind. -/
theorem readLiteral_breaks (indent : Nat) (chomp : Chomp) (tail bs : List Char)
    (breaks : ∀ b ∈ bs, isBreak b) :
    ∀ first others : List Char,
      readLiteral indent chomp 0 (some ⟨first, others⟩) (bs ++ tail) =
        readLiteral indent chomp 0 (some ⟨first, others ++ bs⟩) tail := by
  induction bs with
  | nil => simp
  | cons b bs ih =>
    intro first others
    have lineBreak := breaks b List.mem_cons_self
    rw [List.cons_append, readLiteral_next indent chomp lineBreak,
      ih (fun d member => breaks d (List.mem_cons_of_mem _ member))]
    simp

/-- A block ends at a line that is not as deep. -/
theorem readLiteral_tail {depth indent : Nat} {tail : List Char} (follows : Tail depth tail)
    (shallow : depth < indent) (chomp : Chomp) (b : Breaks) :
    readLiteral indent chomp 0 (some b) tail = some (chomp.apply b, afterBreak tail) := by
  cases follows with
  | done => rfl
  | line le start =>
    rename_i column c cs
    have token := startsToken_of_start start
    simp only [startsToken, isBlank, Bool.and_eq_true, Bool.not_eq_true', Bool.or_eq_false_iff,
      decide_eq_false_iff_not] at token
    rw [readLiteral_spaces chomp b _ column 0 (by omega), afterBreak_line start, Nat.zero_add]
    exact (if_neg (by simp [token.1.1.1])).trans ((if_neg (by simp [token.1.2])).trans
      ((if_neg (by omega)).trans (if_neg token.1.1.2)))

/-- What came since the last character of a block. -/
def pending : Option Breaks → List Char
  | none => []
  | some b => b.first ++ b.others

/-- A character is read with the breaks in front of it. -/
theorem readLiteral_char (indent : Nat) (chomp : Chomp) {c : Char} (text : isBreak c = false)
    (cs : List Char) {state : Option Breaks} {column : Nat} (start : state.isSome → column = 0) :
    ∃ next, readLiteral indent chomp column state
        ((if state.isSome then spaces indent else []) ++ c :: cs) =
      Scan.after (pending state ++ [c]) (readLiteral indent chomp next none cs) := by
  cases state with
  | none =>
    refine ⟨column + 1, ?_⟩
    simp only [Option.isSome_none, Bool.false_eq_true, if_false, List.nil_append, pending]
    exact if_neg (by simp [text])
  | some b =>
    refine ⟨indent + 1, ?_⟩
    rw [start rfl, Option.isSome_some, if_pos rfl, readLiteral_spaces chomp b _ indent 0 (by omega),
      Nat.zero_add]
    exact (if_neg (by simp)).trans ((if_neg (by simp [text])).trans (if_pos rfl))

theorem literalBody_break {c : Char} (lineBreak : isBreak c) (indent : Nat) (lineStart : Bool)
    (cs : List Char) :
    literalBody indent lineStart (c :: cs) = c :: literalBody indent true cs :=
  if_pos lineBreak

theorem literalBody_text {c : Char} (text : isBreak c = false) (indent : Nat) (lineStart : Bool)
    (cs : List Char) :
    literalBody indent lineStart (c :: cs) =
      (if lineStart then spaces indent else []) ++ c :: literalBody indent false cs :=
  if_neg (by simp [text])

/-- A block is read up to a character, from within a line or from the start of one. -/
theorem readLiteral_text (indent : Nat) (chomp : Chomp) {c : Char} (text : isBreak c = false)
    (more ds : List Char) :
    ∀ (state : Option Breaks) (column : Nat), (state.isSome → column = 0) →
      ∃ next, readLiteral indent chomp column state
          (literalBody indent state.isSome (ds ++ [c]) ++ more) =
        Scan.after (pending state ++ ds ++ [c]) (readLiteral indent chomp next none more) := by
  induction ds with
  | nil =>
    intro state column start
    obtain ⟨next, read⟩ := readLiteral_char indent chomp text more start
    refine ⟨next, ?_⟩
    rw [List.nil_append, literalBody_text text]
    simpa [literalBody] using read
  | cons d ds ih =>
    intro state column start
    by_cases lineBreak : isBreak d
    · rw [List.cons_append, literalBody_break lineBreak, List.cons_append]
      cases state with
      | none =>
        obtain ⟨next, read⟩ := ih (some ⟨[d], []⟩) 0 (fun _ => rfl)
        refine ⟨next, ?_⟩
        rw [readLiteral_first indent chomp lineBreak]
        simpa [pending] using read
      | some b =>
        obtain ⟨next, read⟩ := ih (some { b with others := b.others ++ [d] }) 0 (fun _ => rfl)
        refine ⟨next, ?_⟩
        rw [readLiteral_next indent chomp lineBreak]
        simpa [pending] using read
    · have noBreak : isBreak d = false := by simpa using lineBreak
      obtain ⟨column', char⟩ := readLiteral_char indent chomp noBreak
        (literalBody indent false (ds ++ [c]) ++ more) start
      obtain ⟨next, read⟩ := ih none column' (fun h => by simp at h)
      refine ⟨next, ?_⟩
      rw [List.cons_append, literalBody_text noBreak, List.append_assoc, List.cons_append, char]
      rw [Option.isSome_none] at read
      rw [read]
      simp [pending]

/-- The last character of a text that is not a line break, and the breaks behind it. -/
theorem breaks_or_split (cs : List Char) :
    (∀ b ∈ cs, isBreak b) ∨
      ∃ (ds : List Char) (c : Char) (bs : List Char),
        cs = ds ++ c :: bs ∧ isBreak c = false ∧ ∀ b ∈ bs, isBreak b := by
  induction cs with
  | nil => exact .inl (by simp)
  | cons x xs ih =>
    rcases ih with breaks | ⟨ds, c, bs, rfl, text, breaks⟩
    · by_cases lineBreak : isBreak x
      · exact .inl (by simpa [lineBreak] using breaks)
      · exact .inr ⟨[], x, xs, rfl, by simpa using lineBreak, breaks⟩
    · exact .inr ⟨x :: ds, c, bs, rfl, text, breaks⟩

/-- Line breaks at the end of a block are written as they are. -/
theorem literalBody_breaks (indent : Nat) {bs : List Char} (breaks : ∀ b ∈ bs, isBreak b)
    (cs : List Char) :
    ∀ lineStart,
      literalBody indent lineStart (cs ++ bs) = literalBody indent lineStart cs ++ bs := by
  induction cs with
  | nil =>
    induction bs with
    | nil => exact fun _ => rfl
    | cons b bs ih =>
      intro lineStart
      have rest : literalBody indent true bs = bs :=
        ih (fun d member => breaks d (List.mem_cons_of_mem _ member)) true
      change literalBody indent lineStart (b :: bs) = b :: bs
      rw [literalBody_break (breaks b List.mem_cons_self), rest]
  | cons c cs ih =>
    intro lineStart
    by_cases lineBreak : isBreak c
    · rw [List.cons_append, literalBody_break lineBreak, literalBody_break lineBreak, ih]
      rfl
    · have text : isBreak c = false := by simpa using lineBreak
      rw [List.cons_append, literalBody_text text, literalBody_text text, ih]
      simp

/-- How the hint of a block tells what becomes of the breaks at its end. -/
inductive Chomps : List Char → Chomp → Prop
  | strip : Chomps ['-'] .strip
  | clip : Chomps [] .clip
  | keep : Chomps ['+'] .keep

theorem blockIndent?_spaces {c : Char} (text : isText c) (cs : List Char) (n : Nat) :
    ∀ column, blockIndent? column 0 (spaces n ++ c :: cs) = some (column + n) := by
  induction n with
  | zero =>
    intro column
    have blank := not_blank_of_text text
    simp only [isBlank, Bool.or_eq_false_iff, decide_eq_false_iff_not] at blank
    change blockIndent? column 0 (c :: cs) = _
    rw [blockIndent?, if_neg blank.1, if_neg blank.2, if_neg (by simp [not_break_of_text text])]
    simp
  | succ n ih =>
    intro column
    rw [spaces_succ_append, blockIndent?, if_pos rfl, ih]
    congr 1
    omega

/-- The header of a block tells its indentation, or its first line does. -/
theorem readBlock_header {floor : Nat} (positive : 0 < floor) {cs hint : List Char} {chomp : Chomp}
    (chomps : Chomps hint chomp) (nonempty : cs ≠ []) (prints : cs.all isPrintable)
    (more : List Char) :
    readBlock floor
        (indentHint cs ++ hint ++ '\n' :: (literalBody (floor + 1) true cs ++ more)) =
      readLiteral (floor + 1) chomp 0 (some ⟨[], []⟩)
        (literalBody (floor + 1) true cs ++ more) := by
  cases cs with
  | nil => exact absurd rfl nonempty
  | cons c cs =>
    have told : indentHint (c :: cs) = if isSpaceOrBreak c then ['2'] else [] := rfl
    rw [told]
    by_cases hidden : isSpaceOrBreak c
    · have indent : floor - 1 + 2 = floor + 1 := by omega
      rw [if_pos hidden]
      cases chomps <;> simp [readBlock, indentHint?, chompHint?, isBreak, indent]
    · rw [if_neg hidden]
      simp only [isSpaceOrBreak, Bool.or_eq_true, decide_eq_true_eq, not_or,
        Bool.not_eq_true] at hidden
      simp only [List.all_cons, Bool.and_eq_true] at prints
      have text := (space_or_text prints.1 hidden.2).resolve_left hidden.1
      have indent : (blockIndent? 0 0 (literalBody (floor + 1) true (c :: cs) ++ more)).map
          (fun n => max n (max floor 1)) = some (floor + 1) := by
        rw [literalBody_text hidden.2, if_pos rfl, List.append_assoc, List.cons_append,
          blockIndent?_spaces text, Option.map_some, Option.some_inj]
        omega
      cases chomps <;> simp [readBlock, indentHint?, chompHint?, isBreak, indent]

theorem chompHint_text {c : Char} (text : isBreak c = false) (ds : List Char) :
    chompHint (ds ++ [c]) = ['-'] := by
  simp only [chompHint, List.reverse_append, List.reverse_singleton, List.singleton_append]
  cases ds.reverse <;> simp [text]

theorem chompHint_break {b c : Char} (text : isBreak c = false) (lineBreak : isBreak b)
    (ds : List Char) : chompHint (ds ++ [c, b]) = [] := by
  have reversed : (ds ++ [c, b]).reverse = b :: c :: ds.reverse := by simp
  simp [chompHint, reversed, text, lineBreak]

theorem chompHint_breaks {bs : List Char} (breaks : ∀ b ∈ bs, isBreak b) (many : 2 ≤ bs.length)
    (ds : List Char) : chompHint (ds ++ bs) = ['+'] := by
  have reversed : ∀ b ∈ bs.reverse, isBreak b := by simpa using breaks
  rw [← List.length_reverse] at many
  rw [chompHint, List.reverse_append]
  match bs.reverse, reversed, many with
  | b :: d :: rest, reversed, _ => simp [reversed b, reversed d]

/-- The breaks at the end of a block are kept, dropped or added as its hint tells. -/
theorem readLiteral_block {depth floor : Nat} {tail : List Char} (follows : Tail depth tail)
    (shallow : depth < floor) {cs : List Char} (nonempty : cs ≠ []) :
    ∃ chomp, Chomps (chompHint cs) chomp ∧
      readLiteral (floor + 1) chomp 0 (some ⟨[], []⟩) (literalBody (floor + 1) true cs ++
        ((if cs.getLast?.any isBreak then [] else ['\n']) ++ tail)) =
      some (cs, afterBreak tail) := by
  have deeper : depth < floor + 1 := by omega
  rcases breaks_or_split cs with breaks | ⟨ds, c, bs, rfl, text, breaks⟩
  · have last : cs.getLast?.any isBreak := by
      rw [List.getLast?_eq_some_getLast nonempty]
      exact breaks _ (List.getLast_mem nonempty)
    have hint : chompHint cs = ['+'] := by
      match cs, breaks, nonempty with
      | [b], breaks, _ => simp [chompHint, breaks b]
      | b :: d :: bs, breaks, _ => exact chompHint_breaks breaks (by simp) []
    refine ⟨.keep, by rw [hint]; exact .keep, ?_⟩
    have written : literalBody (floor + 1) true cs = cs :=
      literalBody_breaks (floor + 1) breaks [] true
    rw [if_pos last, List.nil_append, written, readLiteral_breaks _ _ _ _ breaks,
      readLiteral_tail follows deeper]
    rfl
  · have written : literalBody (floor + 1) true (ds ++ c :: bs) =
        literalBody (floor + 1) true (ds ++ [c]) ++ bs := by
      rw [← literalBody_breaks _ breaks, List.append_assoc, List.singleton_append]
    have read (chomp : Chomp) (more : List Char) :
        ∃ next, readLiteral (floor + 1) chomp 0 (some ⟨[], []⟩)
            (literalBody (floor + 1) true (ds ++ c :: bs) ++ more) =
          Scan.after (ds ++ [c]) (readLiteral (floor + 1) chomp next none (bs ++ more)) := by
      rw [written, List.append_assoc]
      simpa [pending] using
        readLiteral_text (floor + 1) chomp text (bs ++ more) ds (some ⟨[], []⟩) 0 (fun _ => rfl)
    have afterFirst (chomp : Chomp) {b : Char} (lineBreak : isBreak b) (next : Nat)
        (bs : List Char) (breaks : ∀ d ∈ bs, isBreak d) :
        readLiteral (floor + 1) chomp next none (b :: bs ++ tail) =
          some (chomp.apply ⟨[b], bs⟩, afterBreak tail) := by
      rw [List.cons_append, readLiteral_first _ chomp lineBreak, readLiteral_breaks _ _ _ _ breaks,
        readLiteral_tail follows deeper, List.nil_append]
    match bs, breaks with
    | [], _ =>
      obtain ⟨next, upTo⟩ := read .strip ('\n' :: tail)
      refine ⟨.strip, by rw [chompHint_text text ds]; exact .strip, ?_⟩
      rw [if_neg (by simp [text]), List.singleton_append, upTo, List.nil_append,
        ← List.nil_append tail, ← List.cons_append, afterFirst .strip (by decide) next [] (by simp)]
      simp [Chomp.apply]
    | [b], breaks =>
      have lineBreak := breaks b List.mem_cons_self
      obtain ⟨next, upTo⟩ := read .clip tail
      refine ⟨.clip, by rw [chompHint_break text lineBreak ds]; exact .clip, ?_⟩
      rw [if_pos (by simp [lineBreak]), List.nil_append, upTo,
        afterFirst .clip lineBreak next [] (by simp)]
      simp [Chomp.apply]
    | b :: d :: bs, breaks =>
      have hint : chompHint (ds ++ c :: b :: d :: bs) = ['+'] := by
        have split : ds ++ c :: b :: d :: bs = (ds ++ [c]) ++ (b :: d :: bs) := by simp
        rw [split]
        exact chompHint_breaks breaks (by simp) _
      have last : (ds ++ c :: b :: d :: bs).getLast?.any isBreak := by
        have ends := breaks _ (List.getLast_mem (l := b :: d :: bs) (by simp))
        simpa [List.getLast?_eq_some_getLast] using ends
      obtain ⟨next, upTo⟩ := read .keep tail
      refine ⟨.keep, by rw [hint]; exact .keep, ?_⟩
      rw [if_pos last, List.nil_append, upTo, afterFirst .keep (breaks b List.mem_cons_self) next _
        (fun x member => breaks x (List.mem_cons_of_mem _ member))]
      simp [Chomp.apply]

/-! ## Strings -/

theorem isSome_integer? (s : String) : (integer? s.toList).isSome = isInteger s := by
  unfold integer? isInteger
  generalize s.toList = cs
  split <;> simp only [Option.isSome_map, Option.isSome_filter]

/-- A string that needs no quotes is read as a string. -/
theorem resolve_string {s : String} (unquoted : needsQuotes s = false) :
    resolve s = some (.str s) := by
  simp only [needsQuotes, Bool.or_eq_false_iff] at unquoted
  obtain ⟨⟨⟨⟨⟨empty, null⟩, bool⟩, integer⟩, padded⟩, float⟩ := unquoted
  have noInteger : integer? s.toList = none := by
    rw [← Option.not_isSome_iff_eq_none, isSome_integer?, integer]
    exact Bool.false_ne_true
  simp [resolve, of_decide_eq_false empty, null, bool, padded, noInteger, float]

theorem style_plain {s : String} (style : styleOf s = .plain) :
    needsQuotes s = false ∧ Bare s.toList := by
  unfold styleOf at style
  dsimp only at style
  split at style
  · split at style <;> simp at style
  · split at style
    · rename_i suits
      simp only [Bool.and_eq_true, Bool.not_eq_true'] at suits
      refine ⟨suits.1, ?_, suits.2⟩
      intro empty
      have unquoted := suits.1
      rw [String.toList_eq_nil_iff.mp empty] at unquoted
      exact absurd unquoted (by decide)
    · split at style <;> simp at style

theorem style_single {s : String} (style : styleOf s = .single) :
    '\n' ∉ s.toList ∧ allowsSingle s.toList := by
  unfold styleOf at style
  dsimp only at style
  split at style
  · split at style <;> simp at style
  · rename_i noLineFeed
    split at style
    · simp at style
    · split at style
      · rename_i suits
        exact ⟨by simpa using noLineFeed, suits⟩
      · simp at style

theorem style_literal {s : String} (style : styleOf s = .literal) :
    s.toList ≠ [] ∧ s.toList.all isPrintable := by
  unfold styleOf at style
  dsimp only at style
  split at style
  · rename_i lineFeed
    split at style
    · rename_i suits
      simp only [allowsLiteral, Bool.and_eq_true] at suits
      refine ⟨?_, suits.1.1⟩
      intro empty
      simp [empty] at lineFeed
    · simp at style
  · split at style
    · simp at style
    · split at style <;> simp at style

theorem literalBody_prints (indent : Nat) {cs : List Char} (prints : cs.all isPrintable) :
    ∀ lineStart, (literalBody indent lineStart cs).all isPrintable := by
  induction cs with
  | nil => exact fun _ => rfl
  | cons c cs ih =>
    intro lineStart
    simp only [List.all_cons, Bool.and_eq_true] at prints
    by_cases lineBreak : isBreak c
    · rw [literalBody_break lineBreak]
      simp [prints.1, ih prints.2]
    · rw [literalBody_text (by simpa using lineBreak)]
      cases lineStart <;> simp [prints.1, ih prints.2, all_spaces]

theorem indentHint_prints (cs : List Char) : (indentHint cs).all isPrintable := by
  unfold indentHint
  split <;> decide

theorem chompHint_prints (cs : List Char) : (chompHint cs).all isPrintable := by
  unfold chompHint
  split
  · decide
  · split <;> decide
  · split
    · split <;> decide
    · decide

/-- A scalar consists of characters that print, whatever the string. -/
theorem scalarLine_prints (indent : Nat) (s : String) : (scalarLine indent s).all isPrintable := by
  have text : (scalarText indent s).all isPrintable := by
    unfold scalarText
    cases style : styleOf s with
    | plain => exact (style_plain style).2.prints
    | single =>
      obtain ⟨-, suits⟩ := style_single style
      simp only [allowsSingle, Bool.and_eq_true] at suits
      simp [singleBody_prints indent suits.1.1]
      decide
    | double =>
      have body : (s.toList.flatMap doubleChar).all isPrintable := by
        simpa [List.all_flatMap] using fun c _ => doubleChar_prints c
      simp only [List.all_cons, List.all_append, body]
      decide
    | literal =>
      obtain ⟨-, prints⟩ := style_literal style
      simp only [List.all_cons, List.all_append, indentHint_prints, chompHint_prints,
        literalBody_prints indent prints true]
      decide
  unfold scalarLine
  split
  · exact text
  · rw [List.all_append, text]
    decide

/-- Every string is read back from its scalar. -/
theorem readScalar_string {depth column : Nat} {tail : List Char} (follows : Tail depth tail)
    (inside : 0 < column) (keys : Bool) (s : String) :
    readScalar (depth + 1) ⟨column, keys, scalarLine (depth + 2) s ++ tail⟩ =
      some (.str s, afterBreak tail) := by
  have skipped (next : Nat) : Place.skip ⟨next, false, '\n' :: tail⟩ = afterBreak tail :=
    toToken_lineFeed next false tail
  cases style : styleOf s with
  | plain =>
    obtain ⟨unquoted, bare⟩ := style_plain style
    have resolves : resolve (String.ofList s.toList) = some (.str s) := by
      rw [String.ofList_toList]
      exact resolve_string unquoted
    have written : scalarLine (depth + 2) s ++ tail = s.toList ++ '\n' :: tail := by
      simp [scalarLine, scalarText, style]
    rw [written]
    exact readScalar_bare bare resolves follows (Nat.lt_succ_self depth) inside keys
  | single =>
    obtain ⟨noLineFeed, suits⟩ := style_single style
    simp only [allowsSingle, Bool.and_eq_true, Bool.not_eq_true'] at suits
    have ends : ('\n' :: tail).head? ≠ some '\'' := by simp
    obtain ⟨next, read⟩ := (readSingle_chars (Nat.succ_pos (depth + 1)) ends s.toList suits.1.1
      noLineFeed suits.1.2 suits.2).1 [] (column + 1) (fun h => absurd rfl h)
    have written : scalarLine (depth + 2) s ++ tail =
        '\'' :: (singleBody (depth + 2) false s.toList ++ '\'' :: '\n' :: tail) := by
      simp [scalarLine, scalarText, style]
    rw [written, readScalar]
    simp [Gap.empty, read, skipped]
  | double =>
    obtain ⟨next, read⟩ := readDouble_chars ('\n' :: tail) s.toList [] (column + 1)
    have written : scalarLine (depth + 2) s ++ tail =
        '"' :: (s.toList.flatMap doubleChar ++ '"' :: '\n' :: tail) := by
      simp [scalarLine, scalarText, style]
    rw [written, readScalar]
    simp [Gap.empty, read, skipped]
  | literal =>
    obtain ⟨nonempty, prints⟩ := style_literal style
    obtain ⟨chomp, chomps, read⟩ := readLiteral_block follows (Nat.lt_succ_self depth) nonempty
    have written : scalarLine (depth + 2) s ++ tail =
        '|' :: (indentHint s.toList ++ chompHint s.toList ++
          '\n' :: (literalBody (depth + 2) true s.toList ++
            ((if s.toList.getLast?.any isBreak then [] else ['\n']) ++ tail))) := by
      simp only [scalarLine, scalarText, style, decide_true, Bool.true_and]
      split <;> simp
    rw [written, readScalar]
    simp only
    rw [readBlock_header (Nat.succ_pos depth) chomps nonempty prints, read]
    simp [follows.skip]

end DeviceOnboard.Yaml
