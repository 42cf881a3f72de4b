import DeviceOnboard.Json.Decode
import DeviceOnboard.Json.Printer

/-!
# Printed JSON reads back

The text of a value without numbers, whose lists hold objects, is read as this value, byte by byte,
whatever the strings in it are. Values are put together from their parts: `Plain` says that the
text of a value is read wherever it stands, with a lemma for every way of building one.
-/
namespace DeviceOnboard.Json

/-! ## Characters as bytes -/

/-- The bytes of some characters, as the readers see them. -/
def seen (cs : List Char) : List Char := (cs.flatMap String.utf8EncodeChar).map Char.ofUInt8

@[simp] theorem seen_nil : seen [] = [] := rfl

@[simp] theorem seen_append (cs ds : List Char) : seen (cs ++ ds) = seen cs ++ seen ds := by
  simp [seen]

theorem toUInt8_ofUInt8 (b : UInt8) : (Char.ofUInt8 b).toUInt8 = b :=
  UInt8.toUInt8_toUInt32 b

theorem toNat_ofUInt8 (b : UInt8) : (Char.ofUInt8 b).toNat = b.toNat := rfl

/-- ASCII is seen as it is. -/
theorem seen_cons {c : Char} (ascii : c.toNat < 128) (cs : List Char) :
    seen (c :: cs) = c :: seen cs := by
  have byte : String.utf8EncodeChar c = [UInt8.ofNat c.toNat] := if_pos (by
    show c.toNat ≤ 127
    omega)
  have back : Char.ofUInt8 (UInt8.ofNat c.toNat) = c := by
    apply Char.ext
    apply UInt32.toNat_inj.mp
    show (UInt8.ofNat c.toNat).toNat = c.toNat
    rw [UInt8.toNat_ofNat']
    omega
  simp [seen, byte, back]

/-- The bytes of a text are decoded as the text. -/
theorem ofUtf8_utf8 (s : String) : ofUtf8 (utf8 s) = .ok s := by
  have bytes : (utf8 s).toByteArray = s.toByteArray := String.utf8Encode_toList
  unfold ofUtf8 String.fromUTF8?
  rw [bytes, dif_pos s.isValidUTF8]
  rfl

/-! ## Strings -/

/-- A byte that stands for itself in a string. -/
def Ordinary (b : UInt8) : Prop := 0x20 ≤ b.toNat ∧ b.toNat ≠ 0x22 ∧ b.toNat ≠ 0x5C

theorem plainStep_ordinary {b : UInt8} (ordinary : Ordinary b) (out : List UInt8)
    (flaw : Option SyntaxError) :
    plainStep (Char.ofUInt8 b) out flaw = .go .plain (b :: out) flaw := by
  obtain ⟨noControl, noQuote, noBackslash⟩ := ordinary
  have quote : Char.ofUInt8 b ≠ '"' := fun same => noQuote (congrArg Char.toNat same)
  have backslash : Char.ofUInt8 b ≠ '\\' := fun same => noBackslash (congrArg Char.toNat same)
  have control : ¬ (Char.ofUInt8 b).toNat < 0x20 := by
    rw [toNat_ofUInt8]
    omega
  simp only [plainStep, quote, backslash, control, if_false, toUInt8_ofUInt8]

theorem scanString_ordinary {bytes : List UInt8} (ordinary : ∀ b ∈ bytes, Ordinary b)
    (out : List UInt8) (rest : List Char) :
    scanString .plain out none (bytes.map Char.ofUInt8 ++ rest) =
      scanString .plain (bytes.reverse ++ out) none rest := by
  induction bytes generalizing out with
  | nil => rfl
  | cons b bytes ih =>
    have first : Ordinary b := ordinary b List.mem_cons_self
    have others : ∀ x ∈ bytes, Ordinary x := fun x member =>
      ordinary x (List.mem_cons_of_mem _ member)
    rw [List.map_cons, List.cons_append, scanString]
    simp only [stringStep, plainStep_ordinary first]
    rw [ih others]
    simp

/-- The byte of an ASCII character is its number, those of all others lie beyond ASCII. -/
theorem byte_of_mem {c : Char} {b : UInt8} (member : b ∈ String.utf8EncodeChar c) :
    (c.toNat < 128 ∧ b.toNat = c.toNat) ∨ 128 ≤ b.toNat := by
  have value {n : Nat} (small : n < 256) : (UInt8.ofNat n).toNat = n := by
    rw [UInt8.toNat_ofNat']
    omega
  have beyond {n : Nat} (low : 128 ≤ n) (high : n < 256) : 128 ≤ (UInt8.ofNat n).toNat := by
    rw [value high]
    exact low
  revert member
  fun_cases String.utf8EncodeChar c with
  | case1 v ascii =>
    intro member
    have small : c.toNat < 128 := Nat.lt_succ_of_le ascii
    rw [List.mem_singleton.mp member]
    exact .inl ⟨small, value (by omega)⟩
  | case2 =>
    intro member
    simp only [List.mem_cons, List.not_mem_nil, or_false] at member
    rcases member with rfl | rfl <;> exact .inr (beyond (by omega) (by omega))
  | case3 =>
    intro member
    simp only [List.mem_cons, List.not_mem_nil, or_false] at member
    rcases member with rfl | rfl | rfl <;> exact .inr (beyond (by omega) (by omega))
  | case4 =>
    intro member
    simp only [List.mem_cons, List.not_mem_nil, or_false] at member
    rcases member with rfl | rfl | rfl | rfl <;> exact .inr (beyond (by omega) (by omega))

/-- No byte of a character that needs no escape means something in a string. -/
theorem ordinary_of_mem {c : Char} (noControl : 0x20 ≤ c.toNat) (noQuote : c ≠ '"')
    (noBackslash : c ≠ '\\') {b : UInt8} (member : b ∈ String.utf8EncodeChar c) :
    Ordinary b := by
  have quote : c.toNat ≠ 0x22 := fun same => noQuote (Char.toNat_inj.mp same)
  have backslash : c.toNat ≠ 0x5C := fun same => noBackslash (Char.toNat_inj.mp same)
  unfold Ordinary
  rcases byte_of_mem member with ⟨_, same⟩ | beyond <;> omega

theorem hexValue?_digitChar {d : Nat} (h : d < 16) : hexValue? (Nat.digitChar d) = some d := by
  revert d
  decide

theorem digitChar_ascii {d : Nat} (h : d < 16) : (Nat.digitChar d).toNat < 128 := by
  revert d
  decide

/-- An escape of two hexadecimal digits is read as the control character. -/
theorem scanString_control {n : Nat} (control : n < 0x20) (out : List UInt8) (rest : List Char) :
    scanString .plain out none ('\\' :: 'u' :: '0' :: '0' :: (twoHex n ++ rest)) =
      scanString .plain (pushChar (Char.ofNat n) out) none rest := by
  have high : hexValue? (Nat.digitChar (n / 16)) = some (n / 16) := hexValue?_digitChar (by omega)
  have low : hexValue? (Nat.digitChar (n % 16)) = some (n % 16) := hexValue?_digitChar (by omega)
  have zero : hexValue? '0' = some 0 := by decide
  -- A control character is no half of a surrogate pair, so it is complete with its last digit.
  have unit : unitStep n none out none = .go .plain (pushChar (Char.ofNat n) out) none := by
    have noTrail : ¬ 0xDC00 ≤ n := by omega
    have noLead : ¬ 0xD800 ≤ n := by omega
    simp [unitStep, noTrail, noLead]
  simp [scanString, stringStep, plainStep, escapeStep, twoHex, high, low, zero, Nat.div_add_mod',
    unit]

/-- An escaped character is read as the character. -/
theorem scanString_escapeChar (c : Char) (out : List UInt8) (rest : List Char) :
    scanString .plain out none (seen (escapeChar c) ++ rest) =
      scanString .plain (pushChar c out) none rest := by
  by_cases short : c ∈ ['"', '\\', '\n', '\r', '\t', '\x08', '\x0c']
  · simp only [List.mem_cons, List.not_mem_nil, or_false] at short
    rcases short with rfl | rfl | rfl | rfl | rfl | rfl | rfl <;> rfl
  · simp only [List.mem_cons, List.not_mem_nil, or_false, not_or] at short
    obtain ⟨noQuote, noBackslash, noShort⟩ := short
    -- Beyond the short escapes only control characters are escaped.
    by_cases control : c.toNat < 0x20
    · have escape : escapeChar c = '\\' :: 'u' :: '0' :: '0' :: twoHex c.toNat := by
        simp [escapeChar, *]
      have ascii : seen (twoHex c.toNat) = twoHex c.toNat := by
        unfold twoHex
        rw [seen_cons (digitChar_ascii (by omega)), seen_cons (digitChar_ascii (by omega)),
          seen_nil]
      have back : Char.ofNat c.toNat = c := Char.ofNat_toNat c
      rw [escape, seen_cons (by decide), seen_cons (by decide), seen_cons (by decide),
        seen_cons (by decide), ascii]
      have read := scanString_control control out rest
      rwa [back] at read
    · have plain : escapeChar c = [c] := by simp [escapeChar, *]
      have bytes : seen [c] = (String.utf8EncodeChar c).map Char.ofUInt8 := by simp [seen]
      have ordinary : ∀ b ∈ String.utf8EncodeChar c, Ordinary b := fun b =>
        ordinary_of_mem (by omega) noQuote noBackslash
      rw [plain, bytes, scanString_ordinary ordinary]
      rfl

theorem scanString_escapeChars (cs : List Char) (out : List UInt8) (rest : List Char) :
    scanString .plain out none (seen (cs.flatMap escapeChar) ++ rest) =
      scanString .plain ((cs.flatMap String.utf8EncodeChar).reverse ++ out) none rest := by
  induction cs generalizing out with
  | nil => rfl
  | cons c cs ih =>
    rw [List.flatMap_cons, seen_append, List.append_assoc, scanString_escapeChar, ih]
    simp [pushChar]

/-- The text of a string after its opening quote. -/
def closedText (s : String) : List Char := seen (s.toList.flatMap escapeChar) ++ ['"']

theorem seen_stringText (s : String) : seen (stringText s).toList = '"' :: closedText s := by
  have quote : seen ['"'] = ['"'] := rfl
  simp [stringText, closedText, seen_cons, quote]

theorem splitString_closedText (s : String) (rest : List Char) :
    splitString (closedText s ++ rest) = (.ok s, .ok rest) := by
  unfold splitString closedText
  rw [List.append_assoc, scanString_escapeChars]
  have last : stringStep .plain '"' rest ((utf8 s).reverse ++ []) none = .close none := rfl
  change scanString .plain ((utf8 s).reverse ++ []) none ('"' :: rest) = _
  rw [scanString, last]
  simp [ofUtf8_utf8]

/-! ## Values -/

/-- The text of a value, as the readers see it. -/
def seenText (j : Json) : List Char := seen j.text.toList

/-- The text of a value is read as the value wherever it stands, if there are at most so many
objects and lists around one another in it. -/
def ReadsBack (height : Nat) (j : Json) : Prop :=
  ∀ fuel depth rest, 2 * (seenText j).length ≤ fuel → depth + height ≤ depthLimit →
    readValue fuel depth (seenText j ++ rest) = (.ofJson j, .ok rest)

/-- A value that is its own document: its text reads back, and its keys are in order. -/
structure Plain (height : Nat) (j : Json) : Prop where
  reads : ReadsBack height j
  sorted : (Input.ofJson j).toJson = .ok j

theorem skipSpace_cons {c : Char} (h : isSpace c = false) (cs : List Char) :
    skipSpace (c :: cs) = c :: cs := by
  simp [skipSpace, h]

theorem plain_bool (height : Nat) (b : Bool) : Plain height (.bool b) := by
  refine ⟨?_, rfl⟩
  intro fuel depth rest enough _
  obtain ⟨fuel, rfl⟩ : ∃ n, fuel = n + 1 := by
    cases b
    · have : (seenText (.bool false)).length = 5 := rfl
      exact ⟨fuel - 1, by omega⟩
    · have : (seenText (.bool true)).length = 4 := rfl
      exact ⟨fuel - 1, by omega⟩
  cases b <;> rfl

theorem plain_str (height : Nat) (s : String) : Plain height (.str s) := by
  refine ⟨?_, rfl⟩
  intro fuel depth rest enough _
  have text : seenText (.str s) = '"' :: closedText s := seen_stringText s
  rw [text] at enough ⊢
  cases fuel with
  | zero => simp at enough
  | succ fuel =>
    rw [List.cons_append, readValue, skipSpace_cons (by decide)]
    simp [readString, splitString_closedText, Input.ofJson]

/-! ### Objects -/

/-- The text of a member of an object after the opening quote of its key. -/
def memberText (m : String × Json) : List Char := closedText m.1 ++ ':' :: seenText m.2

/-- The members of an object after the first one. -/
def laterText (ms : List (String × Json)) : List Char :=
  ms.flatMap fun m => ',' :: '"' :: memberText m

theorem laterText_cons (m : String × Json) (ms : List (String × Json)) :
    laterText (m :: ms) = ',' :: '"' :: (memberText m ++ laterText ms) := by
  simp [laterText]

theorem memberTexts_cons (m : String × Json) (ms : List (String × Json)) :
    memberTexts (m :: ms) = (stringText m.1 ++ ":" ++ m.2.text) :: memberTexts ms := by
  simp [memberTexts]

theorem seen_members (m : String × Json) (ms : List (String × Json)) :
    seen (",".intercalate (memberTexts (m :: ms))).toList =
      '"' :: (memberText m ++ laterText ms) := by
  have member (m : String × Json) :
      seen (stringText m.1 ++ ":" ++ m.2.text).toList = '"' :: memberText m := by
    simp [memberText, seenText, seen_stringText, seen_cons]
  induction ms generalizing m with
  | nil =>
    rw [memberTexts_cons, memberTexts, String.intercalate_singleton, member]
    simp [laterText]
  | cons next ms ih =>
    have later := ih next
    rw [memberTexts_cons] at later
    rw [memberTexts_cons, memberTexts_cons, String.intercalate_cons_cons, String.toList_append,
      String.toList_append, seen_append, seen_append, member, later, laterText_cons]
    simp [seen_cons]

/-- The text of an object after its opening brace. -/
def bodyText : List (String × Json) → List Char
  | [] => ['}']
  | m :: ms => '"' :: (memberText m ++ (laterText ms ++ ['}']))

theorem seenText_obj (ms : List (String × Json)) :
    seenText (.obj ms) = '\x7b' :: bodyText ms := by
  cases ms with
  | nil => rfl
  | cons m ms =>
    change seen ("\x7b" ++ ",".intercalate (memberTexts (m :: ms)) ++ "\x7d").toList = _
    rw [String.toList_append, String.toList_append, seen_append, seen_append, seen_members]
    simp [bodyText, seen_cons]

section

variable {height fuel depth : Nat} {first : Bool} {m : String × Json}
  {ms : List (String × Json)} {cs rest : List Char}

/-- A member is read, whatever stands after it. -/
theorem readMembers_member (point : objectPoint first cs = .key (memberText m ++ rest))
    (back : ReadsBack height m.2) (enough : 2 * (seenText m.2).length ≤ fuel)
    (shallow : depth + height ≤ depthLimit) :
    readMembers (fuel + 1) depth first cs =
      ((m.1, .ofJson m.2) :: (readMembers fuel depth false rest).1,
        (readMembers fuel depth false rest).2) := by
  have key : splitString (memberText m ++ rest) =
      (.ok m.1, .ok (':' :: (seenText m.2 ++ rest))) := by
    rw [memberText, List.append_assoc, splitString_closedText]
    rfl
  have colon : afterColon (':' :: (seenText m.2 ++ rest)) = .ok (seenText m.2 ++ rest) := rfl
  have value : readValue fuel depth (seenText m.2 ++ rest) = (.ofJson m.2, .ok rest) :=
    back fuel depth rest enough shallow
  simp [readMembers, point, key, colon, value]

/-- Every member pays for its step with its own length. -/
theorem readMembers_later (back : ∀ m ∈ ms, ReadsBack height m.2)
    (enough : 2 * (laterText ms).length + 1 ≤ fuel) (shallow : depth + height ≤ depthLimit) :
    readMembers fuel depth false (laterText ms ++ '}' :: rest) =
      (Input.ofMembers ms, none, .ok rest) := by
  induction ms generalizing fuel with
  | nil =>
    obtain ⟨fuel, rfl⟩ : ∃ n, fuel = n + 1 := ⟨fuel - 1, by omega⟩
    have close : objectPoint false ('}' :: rest) = .close rest := rfl
    simp [laterText, readMembers, close, Input.ofMembers]
  | cons m ms ih =>
    obtain ⟨fuel, rfl⟩ : ∃ n, fuel = n + 1 := ⟨fuel - 1, by omega⟩
    have point : objectPoint false (laterText (m :: ms) ++ '}' :: rest) =
        .key (memberText m ++ (laterText ms ++ '}' :: rest)) := by
      rw [laterText_cons]
      simp [objectPoint, skipSpace, isSpace]
    have length : (laterText (m :: ms)).length =
        (closedText m.1).length + (seenText m.2).length + (laterText ms).length + 3 := by
      simp [laterText_cons, memberText]
      omega
    have later : readMembers fuel depth false (laterText ms ++ '}' :: rest) =
        (Input.ofMembers ms, none, .ok rest) :=
      ih (fun x member => back x (List.mem_cons_of_mem _ member)) (by omega)
    rw [readMembers_member point (back m List.mem_cons_self) (by omega) shallow, later]
    rfl

theorem readMembers_body (back : ∀ m ∈ ms, ReadsBack height m.2)
    (enough : 2 * (bodyText ms).length ≤ fuel) (shallow : depth + height ≤ depthLimit) :
    readMembers fuel depth true (bodyText ms ++ rest) = (Input.ofMembers ms, none, .ok rest) := by
  cases ms with
  | nil =>
    obtain ⟨fuel, rfl⟩ : ∃ n, fuel = n + 1 := ⟨fuel - 1, by simp [bodyText] at enough; omega⟩
    have close : objectPoint true ('}' :: rest) = .close rest := rfl
    simp [bodyText, readMembers, close, Input.ofMembers]
  | cons m ms =>
    have length : (bodyText (m :: ms)).length =
        (closedText m.1).length + (seenText m.2).length + (laterText ms).length + 3 := by
      simp [bodyText, memberText]
      omega
    obtain ⟨fuel, rfl⟩ : ∃ n, fuel = n + 1 := ⟨fuel - 1, by omega⟩
    have point : objectPoint true (bodyText (m :: ms) ++ rest) =
        .key (memberText m ++ (laterText ms ++ '}' :: rest)) := by
      simp [bodyText, objectPoint, skipSpace, isSpace]
    have later : readMembers fuel depth false (laterText ms ++ '}' :: rest) =
        (Input.ofMembers ms, none, .ok rest) :=
      readMembers_later (fun x member => back x (List.mem_cons_of_mem _ member)) (by omega)
        shallow
    rw [readMembers_member point (back m List.mem_cons_self) (by omega) shallow, later]
    rfl

end

theorem readsBack_obj {height : Nat} {ms : List (String × Json)}
    (back : ∀ m ∈ ms, ReadsBack height m.2) : ReadsBack (height + 1) (.obj ms) := by
  intro fuel depth rest enough shallow
  rw [seenText_obj] at enough ⊢
  rw [List.length_cons] at enough
  obtain ⟨fuel, rfl⟩ : ∃ n, fuel = n + 1 := ⟨fuel - 1, by omega⟩
  have members : readMembers fuel (depth + 1) true (bodyText ms ++ rest) =
      (Input.ofMembers ms, none, .ok rest) := readMembers_body back (by omega) (by omega)
  have notDeep : ¬ depthLimit < depth + 1 := by omega
  rw [List.cons_append, readValue, skipSpace_cons (by decide)]
  simp [members, nested, notDeep, Input.ofJson]

theorem toMembers_ofMembers {ms : List (String × Json)}
    (sorted : ∀ m ∈ ms, (Input.ofJson m.2).toJson = .ok m.2) :
    Input.toMembers (Input.ofMembers ms) = .ok ms := by
  induction ms with
  | nil => rfl
  | cons m ms ih =>
    have first : (Input.ofJson m.2).toJson = .ok m.2 := sorted m List.mem_cons_self
    have others := ih fun x member => sorted x (List.mem_cons_of_mem _ member)
    rw [Input.ofMembers, Input.toMembers, first, others]
    rfl

theorem plain_obj {height : Nat} {ms : List (String × Json)}
    (keys : (ms.map (·.1)).Pairwise (· < ·)) (plain : ∀ m ∈ ms, Plain height m.2) :
    Plain (height + 1) (.obj ms) := by
  refine ⟨readsBack_obj fun m member => (plain m member).reads, ?_⟩
  have ascending : Ascending ms := List.pairwise_map.mp keys
  rw [Input.ofJson, Input.toJson, toMembers_ofMembers fun m member => (plain m member).sorted]
  change Except.ok (Json.obj (sortEntries ms)) = _
  rw [sortEntries_eq_self ascending]

/-! ### Lists -/

/-- The text of a value starts like an item of a list. -/
def Opens (j : Json) : Prop := ∃ c cs, seenText j = c :: cs ∧ isSpace c = false ∧ c ≠ ']'

theorem opens_obj (ms : List (String × Json)) : Opens (.obj ms) :=
  ⟨_, _, seenText_obj ms, by decide, by decide⟩

/-- The items of a list after the first one. -/
def laterItems (js : List Json) : List Char := js.flatMap fun j => ',' :: seenText j

theorem laterItems_cons (j : Json) (js : List Json) :
    laterItems (j :: js) = ',' :: (seenText j ++ laterItems js) := by
  simp [laterItems]

theorem seen_items (j : Json) (js : List Json) :
    seen (",".intercalate (itemTexts (j :: js))).toList = seenText j ++ laterItems js := by
  induction js generalizing j with
  | nil =>
    rw [itemTexts, itemTexts, String.intercalate_singleton]
    simp [laterItems, seenText]
  | cons next js ih =>
    have later := ih next
    rw [itemTexts] at later
    rw [itemTexts, itemTexts, String.intercalate_cons_cons, String.toList_append,
      String.toList_append, seen_append, seen_append, later, laterItems_cons]
    simp [seen_cons, seenText]

/-- The text of a list after its opening bracket. -/
def itemsText : List Json → List Char
  | [] => [']']
  | j :: js => seenText j ++ (laterItems js ++ [']'])

theorem seenText_arr (js : List Json) : seenText (.arr js) = '[' :: itemsText js := by
  cases js with
  | nil => rfl
  | cons j js =>
    change seen ("[" ++ ",".intercalate (itemTexts (j :: js)) ++ "]").toList = _
    rw [String.toList_append, String.toList_append, seen_append, seen_append, seen_items]
    simp [itemsText, seen_cons]

section

variable {height fuel depth : Nat} {first : Bool} {j : Json} {js : List Json} {cs rest : List Char}

/-- An item is read, whatever stands after it. -/
theorem readItems_item (point : listPoint first cs = .item (seenText j ++ rest))
    (back : ReadsBack height j) (enough : 2 * (seenText j).length ≤ fuel)
    (shallow : depth + height ≤ depthLimit) :
    readItems (fuel + 1) depth first cs =
      (.ofJson j :: (readItems fuel depth false rest).1, (readItems fuel depth false rest).2) := by
  simp [readItems, point, back fuel depth rest enough shallow]

/-- Every item pays for its step with the comma before it. -/
theorem readItems_later (back : ∀ j ∈ js, ReadsBack height j) (opens : ∀ j ∈ js, Opens j)
    (enough : 2 * (laterItems js).length + 1 ≤ fuel) (shallow : depth + height ≤ depthLimit) :
    readItems fuel depth false (laterItems js ++ ']' :: rest) =
      (Input.ofItems js, none, .ok rest) := by
  induction js generalizing fuel with
  | nil =>
    obtain ⟨fuel, rfl⟩ : ∃ n, fuel = n + 1 := ⟨fuel - 1, by omega⟩
    have close : listPoint false (']' :: rest) = .close rest := rfl
    simp [laterItems, readItems, close, Input.ofItems]
  | cons j js ih =>
    obtain ⟨fuel, rfl⟩ : ∃ n, fuel = n + 1 := ⟨fuel - 1, by omega⟩
    obtain ⟨⟨c, cs, text, notSpace, notClose⟩, opens⟩ := List.forall_mem_cons.mp opens
    obtain ⟨backFirst, back⟩ := List.forall_mem_cons.mp back
    have point : listPoint false (laterItems (j :: js) ++ ']' :: rest) =
        .item (seenText j ++ (laterItems js ++ ']' :: rest)) := by
      rw [laterItems_cons, text]
      have comma : isSpace ',' = false := rfl
      simp only [listPoint, ↓Char.isValue, List.cons_append, List.append_assoc, comma,
        skipSpace_cons, Char.reduceEq, imp_self, Bool.false_eq_true, ↓reduceIte, notSpace]
      split
      · rename_i same
        exact absurd (List.cons.inj same).1 notClose
      · rfl
    have length : (laterItems (j :: js)).length =
        (seenText j).length + (laterItems js).length + 1 := by
      simp [laterItems_cons]
    rw [readItems_item point backFirst (by omega) shallow, ih back opens (by omega)]
    rfl

theorem readItems_body (back : ∀ j ∈ js, ReadsBack height j) (opens : ∀ j ∈ js, Opens j)
    (enough : 2 * (itemsText js).length ≤ fuel) (shallow : depth + height ≤ depthLimit) :
    readItems fuel depth true (itemsText js ++ rest) = (Input.ofItems js, none, .ok rest) := by
  cases js with
  | nil =>
    obtain ⟨fuel, rfl⟩ : ∃ n, fuel = n + 1 := ⟨fuel - 1, by simp [itemsText] at enough; omega⟩
    have close : listPoint true (']' :: rest) = .close rest := rfl
    simp [itemsText, readItems, close, Input.ofItems]
  | cons j js =>
    obtain ⟨⟨c, cs, text, notSpace, notClose⟩, opens⟩ := List.forall_mem_cons.mp opens
    obtain ⟨backFirst, back⟩ := List.forall_mem_cons.mp back
    have length : (itemsText (j :: js)).length =
        (seenText j).length + (laterItems js).length + 1 := by
      simp [itemsText]
      omega
    obtain ⟨fuel, rfl⟩ : ∃ n, fuel = n + 1 := ⟨fuel - 1, by omega⟩
    have point : listPoint true (itemsText (j :: js) ++ rest) =
        .item (seenText j ++ (laterItems js ++ ']' :: rest)) := by
      rw [itemsText, text]
      simp [listPoint, skipSpace_cons, notSpace]
    rw [readItems_item point backFirst (by omega) shallow,
      readItems_later back opens (by omega) shallow]
    rfl

end

theorem readsBack_arr {height : Nat} {js : List Json} (back : ∀ j ∈ js, ReadsBack height j)
    (opens : ∀ j ∈ js, Opens j) : ReadsBack (height + 1) (.arr js) := by
  intro fuel depth rest enough shallow
  rw [seenText_arr] at enough ⊢
  rw [List.length_cons] at enough
  obtain ⟨fuel, rfl⟩ : ∃ n, fuel = n + 1 := ⟨fuel - 1, by omega⟩
  have items : readItems fuel (depth + 1) true (itemsText js ++ rest) =
      (Input.ofItems js, none, .ok rest) := readItems_body back opens (by omega) (by omega)
  have notDeep : ¬ depthLimit < depth + 1 := by omega
  rw [List.cons_append, readValue, skipSpace_cons (by decide)]
  simp [items, nested, notDeep, Input.ofJson]

theorem toItems_ofItems {js : List Json} (sorted : ∀ j ∈ js, (Input.ofJson j).toJson = .ok j) :
    Input.toItems (Input.ofItems js) = .ok js := by
  induction js with
  | nil => rfl
  | cons j js ih =>
    have first : (Input.ofJson j).toJson = .ok j := sorted j List.mem_cons_self
    have others := ih fun x member => sorted x (List.mem_cons_of_mem _ member)
    rw [Input.ofItems, Input.toItems, first, others]
    rfl

theorem plain_arr {height : Nat} {js : List Json} (opens : ∀ j ∈ js, Opens j)
    (plain : ∀ j ∈ js, Plain height j) : Plain (height + 1) (.arr js) := by
  refine ⟨readsBack_arr (fun j member => (plain j member).reads) opens, ?_⟩
  rw [Input.ofJson, Input.toJson, toItems_ofItems fun j member => (plain j member).sorted]
  rfl

/-! ## Documents -/

section

variable {height : Nat} {j : Json} (plain : Plain height j) (shallow : height ≤ depthLimit)
include plain shallow

theorem Plain.document : Document.ofBytes (utf8 j.text) = ⟨.ofJson j, false⟩ := by
  have read : readValue (2 * (seenText j).length + 2) 0 (seenText j ++ []) =
      (.ofJson j, .ok []) := plain.reads _ _ _ (by omega) (by omega)
  rw [List.append_nil] at read
  have bytes : (utf8 j.text).map Char.ofUInt8 = seenText j := rfl
  simp only [Document.ofBytes, bytes, read]
  rfl

/-- The text of a plain value is read as the value. -/
theorem Plain.ofText : ofText j.text = .ok j := by
  unfold Json.ofText ofBytes
  rw [plain.document shallow]
  dsimp only
  rw [plain.sorted]
  rfl

/-- Decoding the text of a plain value is decoding the value. -/
theorem Plain.decodeText {α : Type} (d : Decoder α) :
    decodeText d j.text = d .text (.ofJson j) := by
  unfold Json.decodeText decodeBytes
  rw [plain.document shallow]
  dsimp only
  cases d .text (.ofJson j) <;> rfl

end

end DeviceOnboard.Json
