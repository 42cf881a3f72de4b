import DeviceOnboard.Proofs.YamlLeaves

/-!
# Reading nodes back

A node is read back when it is an item of a list and when it is the value of a key, at any depth.
This holds of scalars, and of lists and mappings whose parts are read back.
-/
namespace DeviceOnboard.Yaml

/-! ## Nodes -/

/-- A value that is read back where it is an item, and where it is the value of a key. -/
structure ReadsBack (v : Yaml) : Prop where
  item : ∀ {fuel column : Nat} {tail : List Char}, (itemText column v).length ≤ fuel →
    Tail column tail →
    readNode fuel (column + 1) (Place.skip ⟨column + 1, true, itemText column v ++ tail⟩) =
      some (v, afterBreak tail)
  value : ∀ {fuel indent column : Nat} {tail : List Char}, (valueText indent v).length ≤ fuel →
    indent ≤ column → Tail indent tail → (afterBreak tail).isItem indent = false →
    readValue fuel indent (Place.skip ⟨column, false, valueText indent v ++ tail⟩) =
      some (v, afterBreak tail)
  itemPrints : ∀ column, (itemText column v).all isPrintable
  valuePrints : ∀ indent, (valueText indent v).all isPrintable

/-- A value that is written in the line of its dash or key is read back when it is a node there. -/
theorem readsBack_inline {v : Yaml} {text : Nat → List Char}
    (item : ∀ column, itemText column v = ' ' :: text column)
    (value : ∀ indent, valueText indent v = ' ' :: text indent)
    (starts : ∀ depth tail, ∃ c rest, text depth ++ tail = c :: rest ∧ startsToken c)
    (reads : ∀ {depth : Nat} {tail : List Char}, Tail depth tail →
      ∀ (fuel : Nat) {column : Nat}, depth < column → ∀ keys,
        readNode (fuel + 1) (depth + 1) ⟨column, keys, text depth ++ tail⟩ =
          some (v, afterBreak tail))
    (prints : ∀ depth, (text depth).all isPrintable) : ReadsBack v where
  item {fuel column tail} enough follows := by
    rw [item] at enough ⊢
    obtain ⟨c, rest, first, token⟩ := starts column tail
    have node := fun fuel => reads follows fuel (show column < column + 2 by omega) true
    rw [List.cons_append, Place.skip, toToken_space, first, toToken_token token, ← first]
    cases fuel with
    | zero => simp at enough
    | succ fuel => exact node fuel
  value {fuel indent column tail} enough inside follows noItem := by
    rw [value, List.length_cons] at enough
    obtain ⟨c, rest, first, token⟩ := starts indent tail
    obtain ⟨d, ds, nonempty, -⟩ := starts indent []
    rw [List.append_nil] at nonempty
    rw [nonempty, List.length_cons] at enough
    have node := fun fuel => reads follows fuel (show indent < column + 1 by omega) false
    rw [value, List.cons_append, Place.skip, toToken_space, first, toToken_token token, ← first]
    obtain ⟨fuel, rfl⟩ : ∃ n, fuel = n + 2 := ⟨fuel - 2, by omega⟩
    exact (if_neg (by simp [Place.isItem, Place.isLine])).trans (node fuel)
  itemPrints column := by
    rw [item, List.all_cons, prints]
    rfl
  valuePrints indent := by
    rw [value, List.all_cons, prints]
    rfl

theorem readsBack_scalar {v : Yaml} {text : Nat → List Char}
    (item : ∀ column, itemText column v = ' ' :: text column)
    (value : ∀ indent, valueText indent v = ' ' :: text indent)
    (scalar : ∀ depth, ScalarText depth (text depth) v) : ReadsBack v := by
  refine readsBack_inline item value (fun depth tail => ?_) ?_ fun depth => (scalar depth).prints
  · obtain ⟨c, rest, first, token, -⟩ := startsScalar_parts ((scalar depth).starts tail)
    exact ⟨c, rest, first, token⟩
  · intro depth tail follows fuel column deep keys
    exact readNode_scalar (scalar depth) follows fuel deep keys

theorem readsBack_bool (b : Bool) : ReadsBack (.bool b) :=
  readsBack_scalar (fun _ => rfl) (fun _ => rfl)
    (scalarText_bool b)

theorem readsBack_nat {n : Nat} (fits : n < Nat.pow 2 128) : ReadsBack (.int n) :=
  readsBack_scalar (fun _ => rfl) (fun _ => rfl)
    (scalarText_nat fits)

theorem readsBack_string (s : String) : ReadsBack (.str s) :=
  readsBack_scalar (fun _ => rfl) (fun _ => rfl)
    (scalarText_string s)

theorem readsBack_emptyList : ReadsBack (.seq []) := by
  have item (column : Nat) : itemText column (.seq []) = ' ' :: "[]\n".toList := rfl
  have value (indent : Nat) : valueText indent (.seq []) = ' ' :: "[]\n".toList := rfl
  refine readsBack_inline item value (fun _ tail => ⟨'[', _, rfl, by decide⟩) ?_
    (fun _ => by decide)
  intro depth tail _ fuel column deep keys
  refine (if_neg (by simp; omega)).trans ((if_neg (by simp [startsWord])).trans ?_)
  simp [Place.skip]

theorem readsBack_emptyMap : ReadsBack (.map []) := by
  have item (column : Nat) : itemText column (.map []) = ' ' :: "\x7b\x7d\n".toList := rfl
  have value (indent : Nat) : valueText indent (.map []) = ' ' :: "\x7b\x7d\n".toList := rfl
  refine readsBack_inline item value (fun _ tail => ⟨'\x7b', _, rfl, by decide⟩) ?_
    (fun _ => by decide)
  intro depth tail _ fuel column deep keys
  refine (if_neg (by simp; omega)).trans ((if_neg (by simp [startsWord])).trans ?_)
  simp [Place.skip]

/-! ## Lists -/

theorem itemText_list (column : Nat) {items : List Yaml} (nonempty : items ≠ []) :
    itemText column (.seq items) = ' ' :: itemsText (column + 2) [] items := by
  cases items with
  | nil => exact absurd rfl nonempty
  | cons item items => rfl

theorem valueText_list (indent : Nat) {items : List Yaml} (nonempty : items ≠ []) :
    valueText indent (.seq items) = '\n' :: itemsText indent (spaces indent) items := by
  cases items with
  | nil => exact absurd rfl nonempty
  | cons item items => rfl

theorem itemsText_cons (column : Nat) (lead : List Char) (item : Yaml) (items : List Yaml) :
    itemsText column lead (item :: items) =
      lead ++ '-' :: (itemText column item ++ itemsText column (spaces column) items) := rfl

theorem itemText_head (column : Nat) (v : Yaml) :
    ∃ cs, itemText column v = ' ' :: cs := by
  cases v with
  | seq items => cases items <;> exact ⟨_, rfl⟩
  | map entries => cases entries <;> exact ⟨_, rfl⟩
  | _ => exact ⟨_, rfl⟩

theorem valueText_head (indent : Nat) (v : Yaml) (tail : List Char) :
    isBlankOrEnd (valueText indent v ++ tail).head? := by
  cases v with
  | seq items => cases items <;> rfl
  | map entries => cases entries <;> rfl
  | _ => rfl

theorem itemsText_lead (column : Nat) (lead : List Char) {items : List Yaml}
    (nonempty : items ≠ []) :
    itemsText column lead items = lead ++ itemsText column [] items := by
  cases items with
  | nil => exact absurd rfl nonempty
  | cons item items => rw [itemsText_cons, itemsText_cons, List.nil_append]

/-- The place of the next item. -/
theorem place_items (column : Nat) (item : Yaml) (items : List Yaml) (tail : List Char) :
    afterBreak (itemsText column (spaces column) (item :: items) ++ tail) =
        ⟨column, true, itemsText column [] (item :: items) ++ tail⟩ ∧
      Place.isItem ⟨column, true, itemsText column [] (item :: items) ++ tail⟩ column := by
  obtain ⟨cs, blank⟩ := itemText_head column item
  constructor
  · rw [itemsText_cons, itemsText_cons, List.nil_append, List.append_assoc, List.cons_append]
    exact afterBreak_line (.inl rfl)
  · simp [itemsText_cons, blank, Place.isItem, Place.isLine, startsWord, isBlankOrEnd]

/-- Items in the column of a list follow its other items. -/
theorem tail_itemsText {column : Nat} {tail : List Char} (follows : Tail column tail)
    (items : List Yaml) : Tail column (itemsText column (spaces column) items ++ tail) := by
  cases items with
  | nil => exact follows
  | cons item items =>
    rw [itemsText_cons, List.append_assoc, List.cons_append]
    exact .line (Nat.le_refl column) (.inl rfl)

/-- The items of a list are read back one after the other. -/
theorem readItems_items {column : Nat} {tail : List Char} (follows : Tail column tail)
    (noItem : (afterBreak tail).isItem column = false) {items : List Yaml}
    (each : ∀ item ∈ items, ReadsBack item) :
    ∀ fuel, items ≠ [] → (itemsText column [] items).length ≤ fuel →
      readItems fuel column ⟨column, true, itemsText column [] items ++ tail⟩ =
        some (items, afterBreak tail) := by
  induction items with
  | nil => exact fun _ nonempty => absurd rfl nonempty
  | cons item items ih =>
    intro fuel _ enough
    rw [itemsText_cons, List.nil_append, List.length_cons, List.length_append] at enough
    rw [itemsText_cons, List.nil_append, List.cons_append, List.append_assoc]
    obtain ⟨fuel, rfl⟩ : ∃ n, fuel = n + 1 := ⟨fuel - 1, by omega⟩
    have first := (each item List.mem_cons_self).item (show _ ≤ fuel by omega)
      (tail_itemsText follows items)
    rw [readItems]
    simp only [List.tail_cons, first, Option.bind_eq_bind, Option.bind_some]
    cases items with
    | nil =>
      change (if (afterBreak tail).isItem column then _ else some ([item], afterBreak tail)) = _
      simp [noItem]
    | cons next items =>
      obtain ⟨place, isItem⟩ := place_items column next items tail
      have rest := ih (fun v member => each v (List.mem_cons_of_mem _ member)) fuel
        (List.cons_ne_nil _ _) (by
          rw [itemsText_lead column (spaces column) (List.cons_ne_nil _ _)] at enough
          simp only [List.length_append] at enough
          omega)
      rw [place, if_pos isItem, rest]
      rfl

theorem itemsText_prints (column : Nat) {items : List Yaml}
    (each : ∀ item ∈ items, ReadsBack item) :
    ∀ lead : List Char, lead.all isPrintable → (itemsText column lead items).all isPrintable := by
  induction items with
  | nil => exact fun _ _ => rfl
  | cons item items ih =>
    intro lead prints
    have first := (each item List.mem_cons_self).itemPrints column
    have rest := ih (fun v member => each v (List.mem_cons_of_mem _ member)) _ (all_spaces column)
    rw [itemsText_cons]
    simp only [List.all_append, List.all_cons, prints, first, rest]
    decide

/-- A list in a column of its own is read from its first dash. -/
theorem readNode_items {column : Nat} {tail : List Char} (follows : Tail column tail)
    (noItem : (afterBreak tail).isItem column = false) {items : List Yaml} (nonempty : items ≠ [])
    (each : ∀ item ∈ items, ReadsBack item) {floor : Nat} (deep : floor ≤ column) {fuel : Nat}
    (enough : (itemsText column [] items).length < fuel) :
    readNode fuel floor ⟨column, true, itemsText column [] items ++ tail⟩ =
      some (.seq items, afterBreak tail) := by
  obtain ⟨fuel, rfl⟩ : ∃ n, fuel = n + 1 := ⟨fuel - 1, by omega⟩
  have read := readItems_items follows noItem each fuel nonempty (by omega)
  have dash : startsWord (itemsText column [] items ++ tail) '-' := by
    match items, nonempty with
    | item :: items, _ =>
      obtain ⟨-, isItem⟩ := place_items column item items tail
      simp only [Place.isItem, Bool.and_eq_true] at isItem
      exact isItem.2
  refine (if_neg (by simp; omega)).trans ((if_pos dash).trans ((if_pos rfl).trans ?_))
  rw [read]
  rfl

theorem readsBack_list {items : List Yaml} (each : ∀ item ∈ items, ReadsBack item) :
    ReadsBack (.seq items) := by
  by_cases empty : items = []
  · rw [empty]
    exact readsBack_emptyList
  · constructor
    · intro fuel column tail enough follows
      rw [itemText_list column empty, List.length_cons] at enough
      have place :
          Place.skip ⟨column + 1, true, ' ' :: (itemsText (column + 2) [] items ++ tail)⟩ =
            ⟨column + 2, true, itemsText (column + 2) [] items ++ tail⟩ := by
        match items, empty with
        | item :: items, _ =>
          simp [Place.skip, itemsText_cons, toToken_token (c := '-') (by decide)]
      rw [itemText_list column empty, List.cons_append, place]
      exact readNode_items (follows.mono (Nat.le_add_right column 2))
        (Place.not_item (follows.not_line (by omega))) empty each (by omega) (by omega)
    · intro fuel indent column tail enough inside follows noItem
      rw [valueText_list indent empty, itemsText_lead indent _ empty, List.length_cons,
        List.length_append] at enough
      obtain ⟨fuel, rfl⟩ : ∃ n, fuel = n + 1 := ⟨fuel - 1, by omega⟩
      have read := readItems_items follows noItem each fuel empty (by omega)
      match items, empty with
      | item :: items, empty =>
        obtain ⟨place, isItem⟩ := place_items indent item items tail
        rw [valueText_list indent empty, List.cons_append, Place.skip, toToken_lineFeed, place]
        refine (if_pos isItem).trans ?_
        rw [read]
        rfl
    · intro column
      rw [itemText_list column empty, List.all_cons, itemsText_prints _ each [] rfl]
      decide
    · intro indent
      rw [valueText_list indent empty, List.all_cons,
        itemsText_prints _ each _ (all_spaces indent)]
      decide

/-! ## Mappings -/

theorem itemText_map (column : Nat) {entries : Entries} (nonempty : entries ≠ []) :
    itemText column (.map entries) = ' ' :: entriesText (column + 2) [] entries := by
  cases entries with
  | nil => exact absurd rfl nonempty
  | cons e entries => rfl

theorem valueText_map (indent : Nat) {entries : Entries} (nonempty : entries ≠ []) :
    valueText indent (.map entries) =
      '\n' :: entriesText (indent + 2) (spaces (indent + 2)) entries := by
  cases entries with
  | nil => exact absurd rfl nonempty
  | cons e entries => rfl

theorem entriesText_cons (indent : Nat) (lead : List Char) (key : String) (v : Yaml)
    (entries : Entries) :
    entriesText indent lead ((key, v) :: entries) =
      lead ++ key.toList ++ ':' ::
        (valueText indent v ++ entriesText indent (spaces indent) entries) := rfl

/-- The text of a mapping from its first key, and what follows it. -/
theorem entriesText_append (indent : Nat) (lead : List Char) (key : String) (v : Yaml)
    (entries : Entries) (tail : List Char) :
    entriesText indent lead ((key, v) :: entries) ++ tail =
      lead ++ (key.toList ++ ':' :: (valueText indent v ++
        (entriesText indent (spaces indent) entries ++ tail))) := by
  simp [entriesText_cons]

theorem entriesText_lead (indent : Nat) (lead : List Char) {entries : Entries}
    (nonempty : entries ≠ []) :
    entriesText indent lead entries = lead ++ entriesText indent [] entries := by
  cases entries with
  | nil => exact absurd rfl nonempty
  | cons e entries =>
    obtain ⟨key, v⟩ := e
    simp [entriesText_cons]

/-- The place of the next entry. -/
theorem place_entries {key : String} (isKey : IsKey key) (indent : Nat) (v : Yaml)
    (entries : Entries) (tail : List Char) :
    afterBreak (entriesText indent (spaces indent) ((key, v) :: entries) ++ tail) =
        ⟨indent, true, entriesText indent [] ((key, v) :: entries) ++ tail⟩ ∧
      Place.isLine ⟨indent, true, entriesText indent [] ((key, v) :: entries) ++ tail⟩ indent ∧
      startsWord (entriesText indent [] ((key, v) :: entries) ++ tail) '-' = false := by
  obtain ⟨c, cs, first, alpha⟩ := isKey.first
  have noDash : c ≠ '-' := by
    rintro rfl
    exact absurd alpha (by decide)
  rw [entriesText_append, entriesText_append, first, List.nil_append, List.cons_append]
  exact ⟨afterBreak_line (.inr alpha), by simp [Place.isLine], by simp [startsWord, noDash]⟩

/-- Entries in the column of a mapping follow its other entries. -/
theorem tail_entriesText {indent : Nat} {tail : List Char} (follows : Tail indent tail)
    {entries : Entries} (keys : ∀ e ∈ entries, IsKey e.1) :
    Tail indent (entriesText indent (spaces indent) entries ++ tail) := by
  cases entries with
  | nil => exact follows
  | cons e entries =>
    obtain ⟨c, cs, first, alpha⟩ := (keys e List.mem_cons_self).first
    rw [entriesText_append, first, List.cons_append]
    exact .line (Nat.le_refl indent) (.inr alpha)

/-- No item stands in the column of a mapping. -/
theorem noItem_entriesText {indent : Nat} {tail : List Char}
    (noLine : (afterBreak tail).isLine indent = false) {entries : Entries}
    (keys : ∀ e ∈ entries, IsKey e.1) :
    (afterBreak (entriesText indent (spaces indent) entries ++ tail)).isItem indent = false := by
  cases entries with
  | nil =>
    change (afterBreak tail).isItem indent = false
    simp [Place.isItem, noLine]
  | cons e entries =>
    obtain ⟨place, -, noDash⟩ := place_entries (keys e List.mem_cons_self) indent e.2 entries tail
    rw [place, Place.isItem, noDash, Bool.and_false]

/-- The entries of a mapping are read back one after the other. -/
theorem readEntries_entries {indent : Nat} {tail : List Char} (follows : Tail indent tail)
    (noLine : (afterBreak tail).isLine indent = false) {entries : Entries}
    (keys : ∀ e ∈ entries, IsKey e.1) (each : ∀ e ∈ entries, ReadsBack e.2) :
    ∀ (key : String) {v : Yaml}, ReadsBack v → ∀ (fuel : Nat) {column : Nat}, indent ≤ column →
      (valueText indent v).length + (entriesText indent (spaces indent) entries).length < fuel →
      readEntries fuel indent key ⟨column, false, ':' :: (valueText indent v ++
          (entriesText indent (spaces indent) entries ++ tail))⟩ =
        some ((key, v) :: entries, afterBreak tail) := by
  induction entries with
  | nil =>
    intro key v first fuel column inside enough
    obtain ⟨fuel, rfl⟩ : ∃ n, fuel = n + 1 := ⟨fuel - 1, by omega⟩
    have value := first.value (show _ ≤ fuel by omega) (show indent ≤ column + 1 by omega)
      (tail_entriesText follows keys) (noItem_entriesText noLine keys)
    rw [readEntries]
    simp only [List.tail_cons, value, Option.bind_eq_bind, Option.bind_some]
    change (if (afterBreak tail).isLine indent then _ else some ([(key, v)], afterBreak tail)) = _
    simp [noLine]
  | cons e entries ih =>
    obtain ⟨next, w⟩ := e
    intro key v first fuel column inside enough
    obtain ⟨fuel, rfl⟩ : ∃ n, fuel = n + 1 := ⟨fuel - 1, by omega⟩
    have value := first.value (show _ ≤ fuel by omega) (show indent ≤ column + 1 by omega)
      (tail_entriesText follows keys) (noItem_entriesText noLine keys)
    have isKey : IsKey next := keys _ List.mem_cons_self
    obtain ⟨place, isLine, -⟩ := place_entries isKey indent w entries tail
    have length : (entriesText indent (spaces indent) ((next, w) :: entries)).length =
        indent + next.toList.length + 1 + (valueText indent w).length +
          (entriesText indent (spaces indent) entries).length := by
      simp [entriesText_cons, spaces]
      omega
    have last : ReadsBack w := each _ List.mem_cons_self
    have rest := ih (fun e member => keys e (List.mem_cons_of_mem _ member))
      (fun e member => each e (List.mem_cons_of_mem _ member)) next last fuel
      (show indent ≤ indent + next.toList.length by omega) (by omega)
    have word : isBlankOrEnd (valueText indent w ++
        (entriesText indent (spaces indent) entries ++ tail)).head? := valueText_head _ _ _
    have read := readScalar_key isKey word (indent + 1) indent true
    rw [readEntries]
    simp only [List.tail_cons, value, Option.bind_eq_bind, Option.bind_some]
    rw [place, if_pos isLine, entriesText_append, List.nil_append, read]
    simp only [Option.bind_some]
    rw [if_pos (isKey_place isKey word indent _), rest]
    rfl

theorem entriesText_prints (indent : Nat) {entries : Entries} (keys : ∀ e ∈ entries, IsKey e.1)
    (each : ∀ e ∈ entries, ReadsBack e.2) :
    ∀ lead : List Char, lead.all isPrintable →
      (entriesText indent lead entries).all isPrintable := by
  induction entries with
  | nil => exact fun _ _ => rfl
  | cons e entries ih =>
    intro lead prints
    have key := (style_plain (keys e List.mem_cons_self).plain).2.prints
    have value := (each e List.mem_cons_self).valuePrints indent
    have rest := ih (fun e member => keys e (List.mem_cons_of_mem _ member))
      (fun e member => each e (List.mem_cons_of_mem _ member)) _ (all_spaces indent)
    rw [entriesText_cons]
    simp only [List.all_append, List.all_cons, prints, key, value, rest]
    decide

/-- A mapping is read from its first key. -/
theorem readNode_entries {indent : Nat} {tail : List Char} (follows : Tail indent tail)
    (noLine : (afterBreak tail).isLine indent = false) {entries : Entries}
    (nonempty : entries ≠ []) (keys : ∀ e ∈ entries, IsKey e.1)
    (distinct : (entries.map Prod.fst).Nodup) (each : ∀ e ∈ entries, ReadsBack e.2)
    {floor : Nat} (deep : floor ≤ indent) {fuel : Nat}
    (enough : (entriesText indent [] entries).length ≤ fuel) :
    readNode fuel floor ⟨indent, true, entriesText indent [] entries ++ tail⟩ =
      some (.map entries, afterBreak tail) := by
  match entries, nonempty with
  | (key, v) :: entries, _ =>
    have isKey : IsKey key := keys _ List.mem_cons_self
    have first : ReadsBack v := each _ List.mem_cons_self
    have length : (entriesText indent [] ((key, v) :: entries)).length =
        key.toList.length + 1 + (valueText indent v).length +
          (entriesText indent (spaces indent) entries).length := by
      simp [entriesText_cons]
      omega
    have long : 0 < key.toList.length := by
      obtain ⟨c, cs, letters, -⟩ := isKey.first
      simp [letters]
    obtain ⟨fuel, rfl⟩ : ∃ n, fuel = n + 1 := ⟨fuel - 1, by omega⟩
    have word : isBlankOrEnd (valueText indent v ++
        (entriesText indent (spaces indent) entries ++ tail)).head? := valueText_head _ _ _
    have read := readScalar_key isKey word floor indent true
    have rest := readEntries_entries follows noLine
      (fun e member => keys e (List.mem_cons_of_mem _ member))
      (fun e member => each e (List.mem_cons_of_mem _ member)) key first fuel
      (show indent ≤ indent + key.toList.length by omega) (by omega)
    obtain ⟨-, -, noDash⟩ := place_entries isKey indent v entries tail
    rw [entriesText_append, List.nil_append] at noDash ⊢
    refine (if_neg (by simp; omega)).trans ((if_neg (by simp [noDash])).trans ?_)
    obtain ⟨c, cs, letters, alpha⟩ := isKey.first
    split
    · rename_i list
      simp [letters] at list
      simp [list.1] at alpha
    · rename_i map
      simp [letters] at map
      simp [map.1] at alpha
    · rw [read]
      simp only [Option.bind_eq_bind, Option.bind_some]
      rw [if_pos (isKey_place isKey word indent _), rest]
      simp only [Option.bind_some]
      rw [if_pos distinct]
      rfl

theorem readsBack_map {entries : Entries} (keys : ∀ e ∈ entries, IsKey e.1)
    (distinct : (entries.map Prod.fst).Nodup) (each : ∀ e ∈ entries, ReadsBack e.2) :
    ReadsBack (.map entries) := by
  by_cases empty : entries = []
  · rw [empty]
    exact readsBack_emptyMap
  · constructor
    · intro fuel column tail enough follows
      rw [itemText_map column empty, List.length_cons] at enough
      have place :
          Place.skip ⟨column + 1, true, ' ' :: (entriesText (column + 2) [] entries ++ tail)⟩ =
            ⟨column + 2, true, entriesText (column + 2) [] entries ++ tail⟩ := by
        match entries, empty with
        | (key, v) :: entries, _ =>
          obtain ⟨c, cs, letters, alpha⟩ := (keys _ List.mem_cons_self).first
          rw [Place.skip, toToken_space, entriesText_append, letters, List.nil_append,
            List.cons_append, toToken_token (startsToken_of_start (.inr alpha))]
      rw [itemText_map column empty, List.cons_append, place]
      exact readNode_entries (follows.mono (Nat.le_add_right column 2))
        (follows.not_line (by omega)) empty keys distinct each (by omega) (by omega)
    · intro fuel indent column tail enough inside follows noItem
      rw [valueText_map indent empty, entriesText_lead (indent + 2) _ empty, List.length_cons,
        List.length_append] at enough
      obtain ⟨fuel, rfl⟩ : ∃ n, fuel = n + 1 := ⟨fuel - 1, by omega⟩
      have read := readNode_entries (follows.mono (Nat.le_add_right indent 2))
        (follows.not_line (by omega)) empty keys distinct each
        (show indent + 1 ≤ indent + 2 by omega) (show _ ≤ fuel by omega)
      match entries, empty with
      | (key, v) :: entries, empty =>
        obtain ⟨place, -⟩ :=
          place_entries (keys _ List.mem_cons_self) (indent + 2) v entries tail
        rw [valueText_map indent empty, List.cons_append, Place.skip, toToken_lineFeed, place]
        exact (if_neg (by simp [Place.isItem, Place.isLine])).trans read
    · intro column
      rw [itemText_map column empty, List.all_cons, entriesText_prints _ keys each [] rfl]
      decide
    · intro indent
      rw [valueText_map indent empty, List.all_cons,
        entriesText_prints _ keys each _ (all_spaces (indent + 2))]
      decide

end DeviceOnboard.Yaml
