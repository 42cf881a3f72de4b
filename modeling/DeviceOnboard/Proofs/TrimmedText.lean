import DeviceOnboard.Text.Blank
import Mathlib.Data.List.Basic
import Mathlib.Data.List.TakeWhile

/-!
# What trimming leaves of a text

A text is blank space, its trimmed text, and blank space again. This determines the trimmed text,
so more blank space around a text changes nothing, and a field is either unset or holds exactly one
text that is not empty and neither starts nor ends with a blank.
-/
namespace DeviceOnboard.Text

/-! ## Texts -/

/-- All characters of a text are blank. -/
def Blank (s : String) : Prop := ∀ c ∈ s.toList, isBlank c = true

/-- A text neither starts nor ends with a blank. -/
structure Solid (s : String) : Prop where
  first : ∀ c ∈ s.toList.head?, isBlank c = false
  last : ∀ c ∈ s.toList.getLast?, isBlank c = false

theorem dropWhile_isBlank_eq_self {cs : List Char} (first : ∀ c ∈ cs.head?, isBlank c = false) :
    cs.dropWhile isBlank = cs := by
  cases cs with
  | nil => rfl
  | cons c cs => exact List.dropWhile_cons_of_neg (by simp [first c rfl])

theorem dropWhile_isBlank_append {front cs : List Char} (blank : ∀ c ∈ front, isBlank c = true)
    (first : ∀ c ∈ cs.head?, isBlank c = false) : (front ++ cs).dropWhile isBlank = cs := by
  rw [List.dropWhile_append_of_pos blank, dropWhile_isBlank_eq_self first]

/-- Trimming takes off the blanks around a text. -/
theorem trim_padded {front s back : String} (blankFront : Blank front) (blankBack : Blank back)
    (solid : Solid s) : trim (front ++ s ++ back) = s := by
  have cut : trimChars (front.toList ++ s.toList ++ back.toList) = s.toList := by
    have blank : ∀ c ∈ back.toList.reverse, isBlank c = true := by simpa [Blank] using blankBack
    have last : ∀ c ∈ s.toList.reverse.head?, isBlank c = false := by simpa using solid.last
    by_cases empty : s.toList = []
    · have all : ∀ c ∈ front.toList ++ s.toList ++ back.toList, isBlank c = true := by
        simpa [empty, or_imp, forall_and] using ⟨blankFront, blankBack⟩
      rw [trimChars, List.dropWhile_eq_nil_iff.mpr all, empty]
      rfl
    · have first : ∀ c ∈ (s.toList ++ back.toList).head?, isBlank c = false := by
        rw [List.head?_append_of_ne_nil _ empty]
        exact solid.first
      rw [trimChars, List.append_assoc, dropWhile_isBlank_append blankFront first,
        List.reverse_append, dropWhile_isBlank_append blank last, List.reverse_reverse]
  rw [trim, String.toList_append, String.toList_append, cut, String.ofList_toList]

theorem toList_trim (s : String) : (trim s).toList = trimChars s.toList := String.toList_ofList

/-- A text is its trimmed text with blanks around it. -/
theorem exists_padding (s : String) :
    ∃ front back, Blank front ∧ Blank back ∧ s = front ++ trim s ++ back ∧ Solid (trim s) := by
  obtain ⟨cs, hcs⟩ : ∃ cs, cs = s.toList.dropWhile isBlank := ⟨_, rfl⟩
  have frontPart : s.toList.takeWhile isBlank ++ cs = s.toList := by
    rw [hcs, List.takeWhile_append_dropWhile]
  have trimmed : trimChars s.toList = (cs.reverse.dropWhile isBlank).reverse := by
    rw [trimChars, hcs]
  have backPart : trimChars s.toList ++ (cs.reverse.takeWhile isBlank).reverse = cs := by
    rw [trimmed, ← List.reverse_append, List.takeWhile_append_dropWhile, List.reverse_reverse]
  refine ⟨String.ofList (s.toList.takeWhile isBlank),
    String.ofList (cs.reverse.takeWhile isBlank).reverse, ?_, ?_, ?_, ?_, ?_⟩
  · intro c member
    rw [String.toList_ofList] at member
    exact List.mem_takeWhile_imp member
  · intro c member
    rw [String.toList_ofList, List.mem_reverse] at member
    exact List.mem_takeWhile_imp member
  · rw [← String.toList_inj]
    simp only [String.toList_append, String.toList_ofList, toList_trim, List.append_assoc]
    rw [backPart, frontPart]
  · -- What is left starts as the text does without the blanks in front.
    intro c first
    rw [toList_trim] at first
    have head := List.head?_dropWhile_not isBlank s.toList
    rw [← hcs, ← backPart, List.head?_append, first] at head
    simpa using head
  · intro c last
    rw [toList_trim, trimmed, List.getLast?_reverse] at last
    have head := List.head?_dropWhile_not isBlank cs.reverse
    rw [last] at head
    simpa using head

/-- The trimmed text is determined by what stands between the blanks. -/
theorem trim_eq_iff {s t : String} : trim s = t ↔
    ∃ front back, Blank front ∧ Blank back ∧ s = front ++ t ++ back ∧ Solid t := by
  constructor
  · rintro rfl
    exact exists_padding s
  · rintro ⟨front, back, blankFront, blankBack, rfl, solid⟩
    exact trim_padded blankFront blankBack solid

theorem blank_append {s t : String} : Blank (s ++ t) ↔ Blank s ∧ Blank t := by
  simp [Blank, or_imp, forall_and]

/-- More blanks around a text change nothing. -/
theorem trim_append_blanks {front s back : String} (blankFront : Blank front)
    (blankBack : Blank back) : trim (front ++ s ++ back) = trim s := by
  obtain ⟨front', back', blankFront', blankBack', parts, solid⟩ := exists_padding s
  rw [trim_eq_iff]
  refine ⟨front ++ front', back' ++ back, blank_append.mpr ⟨blankFront, blankFront'⟩,
    blank_append.mpr ⟨blankBack', blankBack⟩, ?_, solid⟩
  calc front ++ s ++ back = front ++ (front' ++ trim s ++ back') ++ back := by rw [← parts]
    _ = front ++ front' ++ trim s ++ (back' ++ back) := by simp only [String.append_assoc]

/-- Trimming leaves nothing just of blank texts. -/
theorem trim_eq_empty_iff {s : String} : trim s = "" ↔ Blank s := by
  rw [trim_eq_iff]
  constructor
  · rintro ⟨front, back, blankFront, blankBack, rfl, -⟩
    rw [String.append_empty]
    exact blank_append.mpr ⟨blankFront, blankBack⟩
  · intro blank
    exact ⟨s, "", blank, by simp [Blank], by simp, by simp, by simp⟩

theorem trim_eq_self {s : String} (plain : ∀ c ∈ s.toList, isBlank c = false) : trim s = s :=
  trim_eq_iff.mpr ⟨"", "", by simp [Blank], by simp [Blank], by simp,
    fun c first => plain c (List.mem_of_mem_head? first),
    fun c last => plain c (List.mem_of_getLast? last)⟩

/-- Nothing is left to trim of a trimmed text. -/
theorem trim_trim (s : String) : trim (trim s) = trim s := by
  obtain ⟨-, -, -, -, -, solid⟩ := exists_padding s
  exact trim_eq_iff.mpr ⟨"", "", by simp [Blank], by simp [Blank], by simp, solid⟩

/-! ## Fields -/

/-- A field is absent or holds nothing but blanks. -/
def Unset (field : Option String) : Prop := ∀ s ∈ field, Blank s

/-- A text that is not empty is what a field holds between blanks. -/
structure Holds (field : Option String) (t : String) : Prop where
  padded : ∃ front back, Blank front ∧ Blank back ∧ field = some (front ++ t ++ back)
  solid : Solid t
  nonempty : t ≠ ""

theorem field?_eq_none_iff {field : Option String} : field? field = none ↔ Unset field := by
  cases field with
  | none => simp [field?, Unset]
  | some s =>
    unfold field?
    simp [Unset, ← trim_eq_empty_iff]

theorem field?_eq_some_iff {field : Option String} {t : String} :
    field? field = some t ↔ Holds field t := by
  have held : field? field = some t ↔ t ≠ "" ∧ ∃ s, field = some s ∧ trim s = t := by
    cases field with
    | none => simp [field?]
    | some s =>
      unfold field?
      simp only [Option.map_some, Option.ite_none_left_eq_some, Option.some.injEq]
      grind
  rw [held]
  simp only [trim_eq_iff]
  constructor
  · rintro ⟨nonempty, s, rfl, front, back, blankFront, blankBack, rfl, solid⟩
    exact ⟨⟨front, back, blankFront, blankBack, rfl⟩, solid, nonempty⟩
  · rintro ⟨⟨front, back, blankFront, blankBack, rfl⟩, solid, nonempty⟩
    exact ⟨nonempty, _, rfl, front, back, blankFront, blankBack, rfl, solid⟩

/-- A field with more blanks around its text holds what it held. -/
theorem field?_append_blanks {front back : String} (blankFront : Blank front)
    (blankBack : Blank back) (field : Option String) :
    field? (field.map fun s => front ++ s ++ back) = field? field := by
  cases field with
  | none => rfl
  | some s => simp [field?, trim_append_blanks blankFront blankBack]

/-- A field is unset or holds one text. -/
theorem unset_or_holds (field : Option String) :
    (Unset field ∧ ∀ t, ¬Holds field t) ∨ (¬Unset field ∧ ∃! t, Holds field t) := by
  simp only [← field?_eq_none_iff, ← field?_eq_some_iff]
  cases field? field <;> simp

end DeviceOnboard.Text
