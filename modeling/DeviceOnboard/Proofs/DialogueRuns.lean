import DeviceOnboard.Dialogue
import Mathlib.Logic.Basic

/-!
# Runs of a dialogue

A run is one way through the tree of a dialogue: the questions in their order, each with some
answer of its type, and the result at the end. Nothing is assumed about where the answers come
from, so what holds of every run holds under every source of answers, also of one that changes
its mind or looks at what was asked before. Answers that depend on the question alone give
exactly one run.
-/
namespace DeviceOnboard.Dialogue

variable {Q : Type} {A : Q → Type} {α β σ : Type}

/-- Questions in their order, each with the answer it got. -/
abbrev Log (Q : Type) (A : Q → Type) := List ((q : Q) × A q)

inductive Run : Dialogue Q A α → Log Q A → α → Prop where
  | done (result : α) : Run (.done result) [] result
  | ask (q : Q) (next : A q → Dialogue Q A α) (a : A q) (log : Log Q A) (result : α)
      (rest : Run (next a) log result) : Run (.ask q next) (⟨q, a⟩ :: log) result

theorem run_done_iff {r r' : α} {log : Log Q A} :
    Run (.done r) log r' ↔ log = [] ∧ r' = r := by
  constructor
  · intro h
    cases h
    exact ⟨rfl, rfl⟩
  · rintro ⟨rfl, rfl⟩
    exact .done _

theorem run_ask_iff {q : Q} {next : A q → Dialogue Q A α} {log : Log Q A} {r : α} :
    Run (.ask q next) log r ↔ ∃ a rest, log = ⟨q, a⟩ :: rest ∧ Run (next a) rest r := by
  constructor
  · intro h
    cases h with
    | ask _ _ a rest _ h => exact ⟨a, rest, rfl, h⟩
  · rintro ⟨a, rest, rfl, h⟩
    exact .ask q next a rest r h

theorem run_question_iff {q : Q} {log : Log Q A} {a : A q} :
    Run (.question q) log a ↔ log = [⟨q, a⟩] := by
  constructor
  · intro h
    obtain ⟨b, _, rfl, rest⟩ := run_ask_iff.mp h
    obtain ⟨rfl, rfl⟩ := run_done_iff.mp rest
    rfl
  · rintro rfl
    exact .ask _ _ _ _ _ (.done _)

/-- A run of two dialogues in sequence is a run of the first and then one of the second. -/
theorem run_bind_iff {d : Dialogue Q A α} {f : α → Dialogue Q A β} {log : Log Q A} {r : β} :
    Run (d.bind f) log r ↔
      ∃ a before after, Run d before a ∧ Run (f a) after r ∧ log = before ++ after := by
  induction d generalizing log with
  | done a =>
    constructor
    · exact fun h => ⟨a, [], log, .done a, h, rfl⟩
    · rintro ⟨_, _, after, first, second, rfl⟩
      cases first
      exact second
  | ask q next ih =>
    simp only [bind, run_ask_iff, ih]
    constructor
    · rintro ⟨a, rest, rfl, b, before, after, first, second, rfl⟩
      exact ⟨b, ⟨q, a⟩ :: before, after, ⟨a, before, rfl, first⟩, second, rfl⟩
    · rintro ⟨b, _, after, ⟨a, before, rfl, first⟩, second, rfl⟩
      exact ⟨a, before ++ after, rfl, b, before, after, first, second, rfl⟩

/-- What a dialogue yields with answers from a state is the result of a run. -/
theorem exists_run_answered (answer : (q : Q) → σ → A q × σ) (d : Dialogue Q A α) (s : σ) :
    ∃ log, Run d log (d.answered answer s).1 := by
  induction d generalizing s with
  | done r => exact ⟨[], .done r⟩
  | ask q next ih =>
    obtain ⟨log, h⟩ := ih (answer q s).1 (answer q s).2
    exact ⟨_, .ask q next _ log _ h⟩

/-- Every question of a log got the answer that is given to it, whenever it is put. -/
def AnsweredBy (answer : (q : Q) → A q) (log : Log Q A) : Prop :=
  ∀ entry ∈ log, entry.2 = answer entry.1

/-- Under answers that depend on the question alone a dialogue has one run. -/
theorem run_unique {answer : (q : Q) → A q} {d : Dialogue Q A α} {log log' : Log Q A} {r r' : α}
    (run : Run d log r) (answered : AnsweredBy answer log) (run' : Run d log' r')
    (answered' : AnsweredBy answer log') : log' = log ∧ r' = r := by
  induction run generalizing log' with
  | done r => exact run_done_iff.mp run'
  | ask q next a log r rest ih =>
    obtain ⟨a', log', rfl, rest'⟩ := run_ask_iff.mp run'
    have first : a = answer q := answered _ List.mem_cons_self
    have first' : a' = answer q := answered' _ List.mem_cons_self
    rw [first', ← first] at rest'
    obtain ⟨rfl, rfl⟩ := ih (fun e he => answered e (List.mem_cons_of_mem _ he)) rest'
      fun e he => answered' e (List.mem_cons_of_mem _ he)
    exact ⟨by rw [first', ← first], rfl⟩

/-- Answers that depend on the question alone lead to a run. -/
theorem exists_run_answeredBy (answer : (q : Q) → A q) (d : Dialogue Q A α) :
    ∃ log, Run d log (d.answered (fun q (u : Unit) => (answer q, u)) ()).1 ∧
      AnsweredBy answer log := by
  induction d with
  | done r => exact ⟨[], .done r, fun e member => by cases member⟩
  | ask q next ih =>
    obtain ⟨log, run, answered⟩ := ih (answer q)
    exact ⟨_, .ask q next _ log _ run, List.forall_mem_cons.mpr ⟨rfl, answered⟩⟩

end DeviceOnboard.Dialogue
