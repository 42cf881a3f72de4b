import DeviceOnboard.Proofs.YamlReader

/-!
# Reading plain scalars back

How the reader goes over a text, and what it makes of a text that stands as it is. Behind a scalar
the document ends, or goes on in a line that is not as deep as the scalar may lie.
-/
namespace DeviceOnboard.Yaml

/-! ## Scans -/

@[simp] theorem Scan.after_some (front text : List Char) (p : Place) :
    Scan.after front (some (text, p)) = some (front ++ text, p) := rfl

@[simp] theorem Scan.after_nil (scan : Scan) : Scan.after [] scan = scan := by
  cases scan <;> rfl

@[simp] theorem Scan.after_after (front middle : List Char) (scan : Scan) :
    Scan.after front (Scan.after middle scan) = Scan.after (front ++ middle) scan := by
  cases scan with
  | none => rfl
  | some read => simp [Scan.after]

/-! ## Places -/

/-- The place of the first token behind a line break. -/
def afterBreak (cs : List Char) : Place := toToken 0 true false cs

@[simp] theorem toToken_space (column : Nat) (keys : Bool) (cs : List Char) :
    toToken column keys false (' ' :: cs) = toToken (column + 1) keys false cs := by
  simp [toToken, isBreak]

theorem spaces_succ_append (n : Nat) (cs : List Char) :
    spaces (n + 1) ++ cs = ' ' :: (spaces n ++ cs) := rfl

@[simp] theorem toToken_spaces (n column : Nat) (keys : Bool) (cs : List Char) :
    toToken column keys false (spaces n ++ cs) = toToken (column + n) keys false cs := by
  induction n generalizing column with
  | zero => rfl
  | succ n ih =>
    rw [spaces_succ_append, toToken_space, ih]
    congr 1
    omega

@[simp] theorem toToken_lineFeed (column : Nat) (keys : Bool) (cs : List Char) :
    toToken column keys false ('\n' :: cs) = afterBreak cs := by
  simp [toToken, isBreak, afterBreak]

/-- A character that a token starts with. -/
def startsToken (c : Char) : Bool := !isBlank c && !isBreak c && c ≠ '#'

theorem toToken_token {c : Char} (token : startsToken c) (column : Nat) (keys : Bool)
    (cs : List Char) : toToken column keys false (c :: cs) = ⟨column, keys, c :: cs⟩ := by
  simp only [startsToken, isBlank, Bool.and_eq_true, Bool.not_eq_true', Bool.or_eq_false_iff,
    decide_eq_false_iff_not, decide_eq_true_eq, ne_eq] at token
  obtain ⟨⟨⟨notSpace, notTab⟩, notBreak⟩, notComment⟩ := token
  simp [toToken, notBreak, notSpace, notTab, notComment]

/-- What may follow a node: nothing, or a key or an item in a line that is no deeper. -/
inductive Tail (depth : Nat) : List Char → Prop
  | done : Tail depth []
  | line {column : Nat} {c : Char} {cs : List Char} (shallow : column ≤ depth)
      (start : c = '-' ∨ c.isAlpha) : Tail depth (spaces column ++ c :: cs)

/-- Characters of a class are not those that are not of it. -/
theorem ne_of_class {p : Char → Bool} {c d : Char} (holds : p c) (other : p d = false) : c ≠ d := by
  rintro rfl
  simp [other] at holds

theorem startsToken_of_start {c : Char} (start : c = '-' ∨ c.isAlpha) : startsToken c := by
  rcases start with rfl | alpha
  · decide
  · have isNot (d : Char) (other : d.isAlpha = false) : c ≠ d := ne_of_class alpha other
    simp [startsToken, isBlank, isBreak, isNot]

theorem afterBreak_line {column : Nat} {c : Char} {cs : List Char} (start : c = '-' ∨ c.isAlpha) :
    afterBreak (spaces column ++ c :: cs) = ⟨column, true, c :: cs⟩ := by
  rw [afterBreak, toToken_spaces, toToken_token (startsToken_of_start start), Nat.zero_add]

theorem Tail.skip {depth : Nat} {tail : List Char} (follows : Tail depth tail) :
    (afterBreak tail).skip = afterBreak tail := by
  cases follows with
  | done => rfl
  | line shallow start =>
    rw [afterBreak_line start]
    exact toToken_token (startsToken_of_start start) _ _ _

theorem Tail.mono {depth deeper : Nat} {tail : List Char} (follows : Tail depth tail)
    (le : depth ≤ deeper) : Tail deeper tail := by
  cases follows with
  | done => exact .done
  | line shallow start => exact .line (by omega) start

/-! ## Characters -/

/-- Characters that are neither blank nor a line break. -/
def isText (c : Char) : Bool := !isBlank c && !isBreak c

theorem space_or_text {c : Char} (prints : isPrintable c) (notBreak : isBreak c = false) :
    c = ' ' ∨ isText c := by
  have notTab : c ≠ '\t' := by
    rintro rfl
    exact absurd prints (by decide)
  by_cases space : c = ' '
  · exact .inl space
  · exact .inr (by simp [isText, isBlank, space, notTab, notBreak])

theorem not_blank_of_text {c : Char} (text : isText c) : isBlank c = false := by
  simp only [isText, Bool.and_eq_true, Bool.not_eq_true'] at text
  exact text.1

theorem not_break_of_text {c : Char} (text : isText c) : isBreak c = false := by
  simp only [isText, Bool.and_eq_true, Bool.not_eq_true'] at text
  exact text.2

theorem isText_of_startsToken {c : Char} (token : startsToken c) : isText c := by
  simp only [startsToken, Bool.and_eq_true] at token
  simp only [isText, Bool.and_eq_true]
  exact token.1

/-! ## Plain scalars -/

theorem readPlain_space (floor column : Nat) (gap : Gap) (cs : List Char) :
    readPlain floor column gap (' ' :: cs) = readPlain floor (column + 1) (gap.blank ' ') cs :=
  (if_pos rfl).trans (if_neg (by simp))

theorem readPlain_stop {c : Char} (text : isText c) {floor column : Nat} {gap : Gap}
    {cs : List Char} (stop : gap.isLines ∧ column < floor ∨ c = ':' ∧ isBlankOrEnd cs.head?) :
    readPlain floor column gap (c :: cs) = some ([], ⟨column, gap.isLines, c :: cs⟩) := by
  refine (if_neg (by simp [not_blank_of_text text])).trans
    ((if_neg (by simp [not_break_of_text text])).trans (if_pos ?_))
  rcases stop with ⟨lines, shallow⟩ | ⟨colon, word⟩
  · simp [lines, shallow]
  · simp [colon, word]

/-- Within a line the next character is read, unless it starts a comment or ends a key. -/
theorem readPlain_text {c : Char} (text : isText c) (floor column : Nat) {ws cs : List Char}
    (noComment : c = '#' → ws = []) (noKey : c = ':' → isBlankOrEnd cs.head? = false) :
    readPlain floor column (.blanks ws) (c :: cs) =
      Scan.after (ws ++ [c]) (readPlain floor (column + 1) .empty cs) := by
  have goesOn : ¬ (c = '#' ∧ Gap.blanks ws ≠ .empty ∨ c = ':' ∧ isBlankOrEnd cs.head?) := by
    rintro (⟨comment, blank⟩ | ⟨colon, word⟩)
    · exact blank (congrArg Gap.blanks (noComment comment))
    · simp [noKey colon] at word
  exact (if_neg (by simp [not_blank_of_text text])).trans
    ((if_neg (by simp [not_break_of_text text])).trans
      (if_neg (by simpa [Gap.isLines] using goesOn)))

theorem isBlankOrEnd_head_append {cs rest : List Char} (notEnd : isBlankOrEnd cs.head? = false) :
    isBlankOrEnd (cs ++ rest).head? = false := by
  cases cs with
  | nil => exact absurd notEnd (by decide)
  | cons c cs => exact notEnd

/-- The characters of a plain scalar behind its first one are read up to the last one. -/
theorem readPlain_chars (floor : Nat) (rest : List Char) (cs : List Char) :
    ∀ (before : Char) (ws : List Char) (column : Nat),
      hasInnerIndicator before cs = false → cs.all isPrintable → cs.any isBreak = false →
      cs.getLast? ≠ some ' ' → (ws ≠ [] → before = ' ') → (cs = [] → ws = []) →
      readPlain floor column (.blanks ws) (cs ++ rest) =
        Scan.after (ws ++ cs) (readPlain floor (column + cs.length) .empty rest) := by
  induction cs with
  | nil =>
    intro before ws column _ _ _ _ _ noBlanks
    simp [noBlanks rfl, Gap.empty]
  | cons c cs ih =>
    intro before ws column inner prints breaks last blanks _
    simp only [hasInnerIndicator, Bool.or_eq_false_iff] at inner
    simp only [List.all_cons, Bool.and_eq_true] at prints
    simp only [List.any_cons, Bool.or_eq_false_iff] at breaks
    obtain ⟨⟨colon, comment⟩, inner⟩ := inner
    have last' : cs.getLast? ≠ some ' ' := by
      intro ends
      cases cs with
      | nil => simp at ends
      | cons d ds => exact last (by rw [List.getLast?_cons_cons]; exact ends)
    rcases space_or_text prints.1 breaks.1 with rfl | text
    · have more : cs ≠ [] := by
        rintro rfl
        exact last rfl
      rw [List.cons_append, readPlain_space, Gap.blank,
        ih ' ' (ws ++ [' ']) (column + 1) inner prints.2 breaks.2 last' (fun _ => rfl)
          (fun done => absurd done more)]
      simp [Nat.add_assoc, Nat.add_comm 1]
    · have noComment : c = '#' → ws = [] := by
        intro isComment
        by_cases blank : ws = []
        · exact blank
        · simp [isComment, blanks blank, isBlankOrEnd] at comment
      have noKey : c = ':' → isBlankOrEnd (cs ++ rest).head? = false := by
        intro isColon
        exact isBlankOrEnd_head_append (by simpa [isColon] using colon)
      rw [List.cons_append, readPlain_text text floor column noComment noKey, Gap.empty,
        ih c [] (column + 1) inner prints.2 breaks.2 last' (fun h => absurd rfl h) (fun _ => rfl)]
      simp [Gap.empty, Nat.add_assoc, Nat.add_comm 1]

theorem readPlain_spaces (floor : Nat) (b : Char) (bs cs : List Char) (n column : Nat) :
    readPlain floor column (.lines b bs) (spaces n ++ cs) =
      readPlain floor (column + n) (.lines b bs) cs := by
  induction n generalizing column with
  | zero => rfl
  | succ n ih =>
    rw [spaces_succ_append, readPlain_space, Gap.blank, ih]
    congr 1
    omega

/-- A plain scalar ends with its line when the next line is not as deep. -/
theorem readPlain_tail {depth floor : Nat} {tail : List Char} (follows : Tail depth tail)
    (shallow : depth < floor) (column : Nat) :
    readPlain floor column .empty ('\n' :: tail) = some ([], afterBreak tail) := by
  have newLine : readPlain floor column .empty ('\n' :: tail) =
      readPlain floor 0 (.lines '\n' []) tail := (if_neg (by decide)).trans (if_pos rfl)
  rw [newLine]
  cases follows with
  | done => rfl
  | line le start =>
    have text := isText_of_startsToken (startsToken_of_start start)
    rw [readPlain_spaces, afterBreak_line start, readPlain_stop text (.inl ⟨rfl, by omega⟩),
      Nat.zero_add, Gap.isLines]

/-- A plain scalar ends at the colon of a key. -/
theorem readPlain_colon (floor column : Nat) {cs : List Char} (word : isBlankOrEnd cs.head?) :
    readPlain floor column .empty (':' :: cs) = some ([], ⟨column, false, ':' :: cs⟩) :=
  readPlain_stop (by decide) (.inr ⟨rfl, word⟩)

/-- A text that may stand as it is. -/
structure Bare (cs : List Char) : Prop where
  nonempty : cs ≠ []
  allowed : allowsPlain cs

theorem Bare.prints {cs : List Char} (bare : Bare cs) : cs.all isPrintable := by
  have allowed := bare.allowed
  simp only [allowsPlain, allowsSingle, Bool.and_eq_true] at allowed
  exact allowed.1.1.1.1.1.1

/-- What is known of the first character of a bare text and of the others. -/
structure Bare.Parts (c : Char) (cs : List Char) : Prop where
  text : isText c
  noIndicator : isIndicator c = false
  inWord : c = '?' ∨ c = ':' ∨ c = '-' → isBlankOrEnd cs.head? = false
  inner : hasInnerIndicator c cs = false
  prints : cs.all isPrintable
  breaks : cs.any isBreak = false
  last : cs.getLast? ≠ some ' '

theorem Bare.parts {c : Char} {cs : List Char} (bare : Bare (c :: cs)) : Bare.Parts c cs := by
  have allowed := bare.allowed
  simp only [allowsPlain, allowsSingle, hasIndicator, startsWithIndicator, List.all_cons,
    List.any_cons, List.head?_cons, Bool.and_eq_true, Bool.not_eq_true',
    Bool.or_eq_false_iff] at allowed
  obtain ⟨⟨⟨⟨⟨⟨prints, -⟩, -⟩, ⟨-, start⟩, inner⟩, breaks⟩, front⟩, last⟩ := allowed
  have notSpace : c ≠ ' ' := by
    rintro rfl
    simp [isSpaceOrBreak] at front
  refine ⟨(space_or_text prints.1 breaks.1).resolve_left notSpace, start.1, ?_, inner, prints.2,
    breaks.2, ?_⟩
  · intro special
    rcases special with h | h | h <;> simpa [h] using start.2
  · intro ends
    rw [List.getLast?_cons, ends] at last
    simp [isSpaceOrBreak] at last

/-- A bare text is read up to its end. -/
theorem readPlain_bare {cs : List Char} (bare : Bare cs) (floor column : Nat)
    (rest : List Char) :
    readPlain floor column .empty (cs ++ rest) =
      Scan.after cs (readPlain floor (column + cs.length) .empty rest) := by
  cases cs with
  | nil => exact absurd rfl bare.nonempty
  | cons c cs =>
    have parts := bare.parts
    have noKey : c = ':' → isBlankOrEnd (cs ++ rest).head? = false := fun isColon =>
      isBlankOrEnd_head_append (parts.inWord (.inr (.inl isColon)))
    rw [List.cons_append, Gap.empty, readPlain_text parts.text floor column (fun _ => rfl) noKey,
      Gap.empty, readPlain_chars floor rest cs c [] (column + 1) parts.inner parts.prints
        parts.breaks parts.last (fun h => absurd rfl h) (fun _ => rfl)]
    simp [Gap.empty, Nat.add_assoc, Nat.add_comm 1]

theorem Bare.startsPlain {cs : List Char} (bare : Bare cs) (rest : List Char) :
    startsPlain (cs ++ rest) := by
  cases cs with
  | nil => exact absurd rfl bare.nonempty
  | cons c cs =>
    have parts := bare.parts
    rw [List.cons_append, Yaml.startsPlain]
    split
    · rename_i special
      have word : isBlankOrEnd cs.head? = false := by
        simp only [Bool.or_eq_true, decide_eq_true_eq] at special
        rcases special with (h | h) | h
        · exact parts.inWord (.inr (.inr h))
        · exact parts.inWord (.inl h)
        · exact parts.inWord (.inr (.inl h))
      rw [isBlankOrEnd_head_append word]
      rfl
    · have list : "#,[]\x7b\x7d&*!|>'\"%@\x60".toList.contains c = false := by
        simpa [isIndicator] using parts.noIndicator
      simp only [not_blank_of_text parts.text, not_break_of_text parts.text, list]
      rfl

/-- A scalar that starts as a plain one is read as one. -/
theorem readScalar_plain {p : Place} (starts : startsPlain p.rest)
    (noMarker : p.column = 0 → atMarker p.rest = false) (floor : Nat) :
    readScalar floor p = do
      let (text, q) ← readPlain floor p.column .empty p.rest
      let v ← resolve (String.ofList text)
      return (v, q.skip) := by
  have goesOn : startsPlain p.rest && !(p.column = 0 && atMarker p.rest) := by
    simp only [starts, Bool.true_and, Bool.not_eq_true', Bool.and_eq_false_iff,
      decide_eq_false_iff_not]
    by_cases first : p.column = 0
    · exact .inr (noMarker first)
    · exact .inl first
  unfold readScalar
  split
  · rename_i rest
    simp [rest, Yaml.startsPlain] at starts
  · rename_i rest
    simp [rest, Yaml.startsPlain] at starts
  · rename_i rest
    simp [rest, Yaml.startsPlain] at starts
  · rw [if_pos goesOn]

/-- A bare text in a line of its own is read as what it stands for. -/
theorem readScalar_bare {cs : List Char} {v : Yaml} (bare : Bare cs)
    (resolves : resolve (String.ofList cs) = some v) {depth floor column : Nat}
    {tail : List Char} (follows : Tail depth tail) (shallow : depth < floor)
    (inside : 0 < column) (keys : Bool) :
    readScalar floor ⟨column, keys, cs ++ '\n' :: tail⟩ = some (v, afterBreak tail) := by
  rw [readScalar_plain (bare.startsPlain _) (fun first => absurd first (by simp; omega)),
    readPlain_bare bare, readPlain_tail follows shallow]
  simp [resolves, follows.skip]

end DeviceOnboard.Yaml
