/-!
# Dictionaries in key order

Labels, annotations and the data of a configuration map are dictionaries whose keys ascend. The
same order is given to the members of a JSON object that was read. A key that is set again takes
the last value. Main statements: setting a key keeps the keys in order, and a list whose keys
ascend is its own dictionary.
-/
namespace DeviceOnboard

variable {α β : Type}

/-- Each key is smaller than the keys after it. -/
abbrev Ascending (entries : List (String × α)) : Prop :=
  entries.Pairwise fun a b => a.1 < b.1

/-- Sets a key in a list whose keys ascend. -/
def setEntry (key : String) (value : α) : List (String × α) → List (String × α)
  | [] => [(key, value)]
  | (k, v) :: rest =>
    if key = k then (key, value) :: rest
    else if key < k then (key, value) :: (k, v) :: rest
    else (k, v) :: setEntry key value rest

/-- The value of a key. -/
def findValue? (key : String) (entries : List (String × α)) : Option α :=
  (entries.find? fun e => e.1 == key).map (·.2)

/-- The list without a key. -/
def eraseEntry (key : String) (entries : List (String × α)) : List (String × α) :=
  entries.filter fun e => e.1 != key

/-- The entries in key order; of the entries with one key the last counts. -/
def sortEntries (entries : List (String × α)) : List (String × α) :=
  entries.foldl (fun sorted e => setEntry e.1 e.2 sorted) []

theorem lt_of_mem_setEntry {bound key : String} {value : α} {entries : List (String × α)}
    (hkey : bound < key) (h : ∀ e ∈ entries, bound < e.1) :
    ∀ e ∈ setEntry key value entries, bound < e.1 := by
  induction entries with
  | nil => simpa [setEntry] using hkey
  | cons e rest ih =>
    obtain ⟨k, v⟩ := e
    have hrest : ∀ e ∈ rest, bound < e.1 := fun e he => h e (List.mem_cons_of_mem _ he)
    intro e he
    unfold setEntry at he
    split at he
    · rcases List.mem_cons.1 he with rfl | he
      · exact hkey
      · exact hrest e he
    · split at he
      · rcases List.mem_cons.1 he with rfl | he
        · exact hkey
        · exact h e he
      · rcases List.mem_cons.1 he with rfl | he
        · exact h _ List.mem_cons_self
        · exact ih hrest e he

theorem ascending_setEntry (key : String) (value : α) {entries : List (String × α)}
    (h : Ascending entries) : Ascending (setEntry key value entries) := by
  induction entries with
  | nil => simp [setEntry, Ascending]
  | cons e rest ih =>
    obtain ⟨k, v⟩ := e
    have hcons := List.pairwise_cons.1 h
    unfold setEntry
    split
    · rename_i heq
      subst heq
      exact List.pairwise_cons.2 ⟨hcons.1, hcons.2⟩
    · rename_i hne
      split
      · rename_i hlt
        refine List.pairwise_cons.2 ⟨?_, h⟩
        intro e he
        rcases List.mem_cons.1 he with rfl | he
        · exact hlt
        · exact String.lt_trans hlt (hcons.1 e he)
      · rename_i hge
        have hlt : k < key :=
          Std.lt_of_le_of_ne (String.not_lt.1 hge) fun heq => hne heq.symm
        exact List.pairwise_cons.2 ⟨lt_of_mem_setEntry hlt hcons.1, ih hcons.2⟩

theorem ascending_foldl_setEntry (entries : List (String × α)) {sorted : List (String × α)}
    (h : Ascending sorted) :
    Ascending (entries.foldl (fun sorted e => setEntry e.1 e.2 sorted) sorted) := by
  induction entries generalizing sorted with
  | nil => exact h
  | cons e rest ih => exact ih (ascending_setEntry e.1 e.2 h)

theorem ascending_sortEntries (entries : List (String × α)) : Ascending (sortEntries entries) :=
  ascending_foldl_setEntry entries List.Pairwise.nil

/-- A key beyond all others is set at the end. -/
theorem setEntry_eq_append {key : String} (value : α) {entries : List (String × α)}
    (h : ∀ e ∈ entries, e.1 < key) : setEntry key value entries = entries ++ [(key, value)] := by
  induction entries with
  | nil => rfl
  | cons e rest ih =>
    obtain ⟨k, v⟩ := e
    have hk : k < key := h _ List.mem_cons_self
    have hne : key ≠ k := fun heq => String.lt_irrefl k (heq ▸ hk)
    rw [setEntry, if_neg hne, if_neg (String.lt_asymm hk),
      ih fun e he => h e (List.mem_cons_of_mem _ he)]
    rfl

theorem foldl_setEntry_eq_append (entries : List (String × α)) {sorted : List (String × α)}
    (h : Ascending (sorted ++ entries)) :
    entries.foldl (fun sorted e => setEntry e.1 e.2 sorted) sorted = sorted ++ entries := by
  induction entries generalizing sorted with
  | nil => simp
  | cons e rest ih =>
    have hlt : ∀ x ∈ sorted, x.1 < e.1 := fun x hx =>
      (List.pairwise_append.1 h).2.2 x hx e List.mem_cons_self
    rw [List.foldl_cons, setEntry_eq_append e.2 hlt, ih (by simpa using h)]
    simp

/-- Sorting leaves a list alone whose keys ascend. -/
theorem sortEntries_eq_self {entries : List (String × α)} (h : Ascending entries) :
    sortEntries entries = entries :=
  foldl_setEntry_eq_append entries (by simpa using h)

/-- Entries whose keys ascend. -/
structure Dictionary (α : Type) where
  entries : List (String × α)
  ascending : Ascending entries
  deriving DecidableEq

namespace Dictionary

def empty : Dictionary α := ⟨[], List.Pairwise.nil⟩

instance : Inhabited (Dictionary α) := ⟨empty⟩

instance [Repr α] : Repr (Dictionary α) := ⟨fun d n => reprPrec d.entries n⟩

/-- The dictionary of entries in any order. -/
def ofList (entries : List (String × α)) : Dictionary α :=
  ⟨sortEntries entries, ascending_sortEntries entries⟩

def insert (d : Dictionary α) (key : String) (value : α) : Dictionary α :=
  ⟨setEntry key value d.entries, ascending_setEntry key value d.ascending⟩

def find? (d : Dictionary α) (key : String) : Option α := findValue? key d.entries

def keys (d : Dictionary α) : List String := d.entries.map (·.1)

theorem ext_entries {d d' : Dictionary α} (h : d.entries = d'.entries) : d = d' := by
  cases d; cases d'; cases h; rfl

theorem ofList_entries (d : Dictionary α) : ofList d.entries = d :=
  ext_entries (sortEntries_eq_self d.ascending)

end Dictionary

end DeviceOnboard
