import DeviceOnboard.Kubernetes.Metadata

/-!
# Schedules

When servers are to be reconciled. A server stands in a schedule at most once, with the earliest
of the times that were asked for; what is due is taken off. Main statement: a request sets the time
of its server to the earlier one and leaves all other servers alone.
-/
namespace DeviceOnboard.Controller

/-- What a server is known by. -/
structure Key where
  «namespace» : Option String
  name : String
  deriving DecidableEq, Repr

namespace Key

/-- The key of an object. -/
def ofMetadata (m : Kubernetes.ObjectMeta) : Key := ⟨m.namespace, m.nameOrStem⟩

end Key

/-- The second in which each server is to be reconciled, in the order of the first requests. -/
structure Schedule where
  entries : List (Key × Nat)
  deriving DecidableEq, Repr

namespace Schedule

def empty : Schedule := ⟨[]⟩

/-- Asks for a server at a time, unless it is already asked for at an earlier one. -/
def enter (key : Key) (second : Nat) : List (Key × Nat) → List (Key × Nat)
  | [] => [(key, second)]
  | (k, s) :: rest => if k = key then (k, min s second) :: rest else (k, s) :: enter key second rest

def request (s : Schedule) (key : Key) (second : Nat) : Schedule :=
  ⟨enter key second s.entries⟩

/-- When a server is to be reconciled. -/
def time? (s : Schedule) (key : Key) : Option Nat := s.entries.lookup key

/-- The servers that are due at a time. -/
def due (s : Schedule) (second : Nat) : List Key :=
  (s.entries.filter fun e => e.2 ≤ second).map (·.1)

/-- What is left when the servers that are due were taken. -/
def later (s : Schedule) (second : Nat) : Schedule :=
  ⟨s.entries.filter fun e => !decide (e.2 ≤ second)⟩

theorem lookup_enter (key : Key) (second : Nat) (entries : List (Key × Nat)) (k : Key) :
    (enter key second entries).lookup k =
      if k = key then some (((entries.lookup key).map fun s => min s second).getD second)
      else entries.lookup k := by
  induction entries with
  | nil =>
    by_cases h : k = key
    · simp [enter, h]
    · have hb : (k == key) = false := by simpa using h
      simp [enter, List.lookup_cons, h, hb]
  | cons e rest ih =>
    obtain ⟨a, s⟩ := e
    by_cases ha : a = key
    · by_cases h : k = key
      · simp [enter, ha, h]
      · have hb : (k == key) = false := by simpa using h
        simp [enter, List.lookup_cons, ha, h, hb]
    · have hka : (key == a) = false := by simpa using Ne.symm ha
      by_cases hk : k = a
      · simp [enter, ha, hk]
      · have hb : (k == a) = false := by simpa using hk
        simpa [enter, List.lookup_cons, ha, hb, hka] using ih

/-- A request sets the earlier of two times and leaves all other servers alone. -/
theorem time?_request (s : Schedule) (key : Key) (second : Nat) (k : Key) :
    (s.request key second).time? k =
      if k = key then some (((s.time? key).map fun t => min t second).getD second)
      else s.time? k :=
  lookup_enter key second s.entries k

end Schedule

end DeviceOnboard.Controller
