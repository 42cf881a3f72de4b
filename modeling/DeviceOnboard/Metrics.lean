import DeviceOnboard.Server.Kind

/-!
# Counters of reconciles

How often servers of each kind were reconciled, and how often that failed, in the text format that
monitoring systems read.
-/
namespace DeviceOnboard

open DeviceOnboard.Server

structure Metrics where
  reconciles : Kind → Nat
  errors : Kind → Nat

namespace Metrics

def zero : Metrics := ⟨fun _ => 0, fun _ => 0⟩

/-- A counter for each kind with one more for a kind. -/
def count (counter : Kind → Nat) (kind : Kind) : Kind → Nat :=
  fun k => if k = kind then counter k + 1 else counter k

/-- Counts a reconcile. -/
def reconciled (m : Metrics) (kind : Kind) : Metrics :=
  { m with reconciles := count m.reconciles kind }

/-- Counts a reconcile that failed. -/
def failed (m : Metrics) (kind : Kind) : Metrics := { m with errors := count m.errors kind }

/-- The samples of a counter. A kind without any event has none. -/
def samples (name : String) (counter : Kind → Nat) : List String :=
  (Kind.all.filter fun k => 0 < counter k).map fun k =>
    name ++ "_total\x7bkind=\"" ++ k.service ++ "\"\x7d " ++ toString (counter k)

/-- The lines that describe a counter, and its samples. -/
def family (name help : String) (counter : Kind → Nat) : List String :=
  ("# HELP " ++ name ++ " " ++ help ++ ".") :: ("# TYPE " ++ name ++ " counter")
    :: samples name counter

/-- The lines of the text format. -/
def lines (m : Metrics) : List String :=
  family "fdo_controller_reconciles" "Count of reconciliations by kind" m.reconciles
    ++ family "fdo_controller_reconcile_errors" "Count of failed reconciliations by kind" m.errors
    ++ ["# EOF"]

/-- The lines in ascending order. -/
def sortedLines (m : Metrics) : List String := m.lines.mergeSort fun a b => decide (a ≤ b)

end Metrics

end DeviceOnboard
