import DeviceOnboard.Kubernetes.Selector
import DeviceOnboard.Proofs.DecodedMembers
import DeviceOnboard.Server.Kind

/-!
# Selectors survive their text

A selector that is written from labels asks, when it is read, for these labels and for nothing
else. Commas separate the requirements, so none may stand in a key or a value; the first equals
sign of a requirement ends its key.
-/
namespace DeviceOnboard

namespace Text

variable {separator : Char}

theorem pieces_intercalate {parts : List (List Char)} (nonempty : parts ≠ [])
    (plain : ∀ p ∈ parts, separator ∉ p) :
    pieces separator ([separator].intercalate parts) = parts := by
  induction parts with
  | nil => exact absurd rfl nonempty
  | cons p parts ih =>
    obtain ⟨first, rest⟩ := List.forall_mem_cons.mp plain
    cases parts with
    | nil =>
      rw [List.intercalate_singleton]
      exact pieces_of_not_mem first
    | cons q parts =>
      rw [List.intercalate_cons_cons, List.append_assoc, List.singleton_append,
        pieces_append_separator first, ih (List.cons_ne_nil q parts) rest]

/-- Texts that are joined by a separator are cut apart again. -/
theorem splitText_intercalate {parts : List String} (nonempty : parts ≠ [])
    (plain : ∀ p ∈ parts, separator ∉ p.toList) :
    splitText separator ((String.singleton separator).intercalate parts) = parts := by
  have plain' : ∀ p ∈ parts.map String.toList, separator ∉ p := by
    simpa using plain
  have cut : pieces separator ((String.singleton separator).intercalate parts).toList =
      parts.map String.toList := by
    rw [String.toList_intercalate, String.toList_singleton]
    exact pieces_intercalate (by simpa using nonempty) plain'
  rw [splitText, cut, List.map_map]
  exact (List.map_congr_left fun p _ => String.ofList_toList).trans (List.map_id parts)

end Text

namespace Kubernetes

/-- A requirement is read back from its text. -/
theorem Requirement.ofText_equals {key : String} (value : String) (plain : '=' ∉ key.toList) :
    ofText (key ++ "=" ++ value) = equals key value := by
  have written : (key ++ "=" ++ value).toList = key.toList ++ '=' :: value.toList := by
    simp [String.toList_append]
  have front : (key.toList ++ '=' :: value.toList).takeWhile (· ≠ '=') = key.toList := by
    rw [List.takeWhile_append_of_pos]
    · simp
    · intro c member
      simpa using fun same : c = '=' => plain (same ▸ member)
  unfold ofText
  simp only [written, front, List.drop_left, String.ofList_toList]

/-- A requirement is cut at its equals sign into a key and a value. -/
theorem splitText_requirement {key value : String} (plainKey : '=' ∉ key.toList)
    (plainValue : '=' ∉ value.toList) :
    Text.splitText '=' (key ++ "=" ++ value) = [key, value] := by
  have joined : (String.singleton '=').intercalate [key, value] = key ++ "=" ++ value := rfl
  rw [← joined]
  exact Text.splitText_intercalate (by simp) (by simp [plainKey, plainValue])

end Kubernetes

namespace Server

open DeviceOnboard.Kubernetes

/-- No comma stands in the labels, and no equals sign in their keys. -/
def Plain (labels : Dictionary String) : Prop :=
  ∀ e ∈ labels.entries, ',' ∉ e.1.toList ∧ '=' ∉ e.1.toList ∧ ',' ∉ e.2.toList

/-- The text of a selector is cut at its commas into one piece for each label. -/
theorem splitText_selectorOf {labels : Dictionary String} (nonempty : labels.entries ≠ [])
    (plain : Plain labels) :
    Text.splitText ',' (selectorOf labels) = labels.entries.map fun e => e.1 ++ "=" ++ e.2 := by
  have separate : ∀ p ∈ labels.entries.map fun e => e.1 ++ "=" ++ e.2, ',' ∉ p.toList := by
    intro p member
    obtain ⟨e, he, rfl⟩ := List.mem_map.mp member
    obtain ⟨key, -, value⟩ := plain e he
    simp [String.toList_append, key, value]
  exact Text.splitText_intercalate (by simpa using nonempty) separate

theorem ofText_selectorOf {labels : Dictionary String} (nonempty : labels.entries ≠ [])
    (plain : Plain labels) :
    Selector.ofText (selectorOf labels) = ⟨labels.entries.map fun e => .equals e.1 e.2⟩ := by
  have cut := splitText_selectorOf nonempty plain
  have some : selectorOf labels ≠ "" := by
    intro none
    rw [none] at cut
    obtain ⟨e, entries, split⟩ := List.exists_cons_of_ne_nil nonempty
    have empty := congrArg List.head? cut
    rw [split] at empty
    simp [Text.splitText, Text.pieces] at empty
  rw [Selector.ofText, if_neg some, cut, List.map_map]
  congr 1
  refine List.map_congr_left fun e member => ?_
  exact Requirement.ofText_equals e.2 (plain e member).2.1

/-- Labels meet the selector that is written from them. -/
theorem selects_selectorOf {labels : Dictionary String} (nonempty : labels.entries ≠ [])
    (plain : Plain labels) :
    (Selector.ofText (selectorOf labels)).selects labels.find? = true := by
  rw [ofText_selectorOf nonempty plain]
  unfold Selector.selects
  rw [List.all_map, List.all_eq_true]
  intro e member
  have found : labels.find? e.1 = some e.2 :=
    findValue?_of_mem (nodup_of_ascending labels.ascending) member
  simp [Requirement.holds, found]

/-! ## The labels of a server -/

theorem entries_labels (kind : Kind) (name : String) : (kind.labels name).entries =
    [(appLabel, appName), (instanceLabel, name), (serviceLabel, kind.service)] := by
  have order : ¬ serviceLabel < appLabel ∧ ¬ instanceLabel < appLabel ∧
      instanceLabel < serviceLabel := by decide
  have different : instanceLabel ≠ appLabel ∧ serviceLabel ≠ appLabel ∧
      instanceLabel ≠ serviceLabel := by decide
  simp only [Kind.labels, Dictionary.ofList, sortEntries, List.foldl_cons, List.foldl_nil, setEntry,
    different, order, if_true, if_false]

theorem find?_labels_appLabel (kind : Kind) (name : String) :
    (kind.labels name).find? appLabel = some appName := by
  rw [Dictionary.find?, entries_labels, findValue?_cons, if_pos rfl]

theorem plain_labels (kind : Kind) {name : String} (plain : ',' ∉ name.toList) :
    Plain (kind.labels name) := by
  have keys : (',' ∉ appLabel.toList ∧ '=' ∉ appLabel.toList) ∧
      (',' ∉ instanceLabel.toList ∧ '=' ∉ instanceLabel.toList) ∧
      ',' ∉ serviceLabel.toList ∧ '=' ∉ serviceLabel.toList := by decide
  have app : ',' ∉ appName.toList := by decide
  have service : ',' ∉ kind.service.toList := by cases kind <;> decide
  unfold Plain
  rw [entries_labels]
  simp [keys, app, service, plain]

/-- Whoever carries the labels of a server meets the selector of its pods. -/
theorem selects_labels (kind : Kind) {name : String} (plain : ',' ∉ name.toList) :
    (Selector.ofText (kind.selector name)).selects (kind.labels name).find? = true :=
  selects_selectorOf (by simp [entries_labels]) (plain_labels kind plain)

end Server

end DeviceOnboard
