/-!
# Dialogues

A program that puts questions to its surroundings and goes on with their answers. A dialogue is a
finite tree: it says which question comes next after each answer, and nothing about how a
question is answered. `answered` runs a dialogue with a state from which the answers are taken.
-/
namespace DeviceOnboard

/-- A program with questions in `Q`, where `A q` are the answers to the question `q`. -/
inductive Dialogue (Q : Type) (A : Q → Type) (α : Type) where
  | done (result : α)
  | ask (question : Q) (next : A question → Dialogue Q A α)

namespace Dialogue

variable {Q : Type} {A : Q → Type} {α β σ : Type}

/-- Goes on with the result of a dialogue. -/
def bind (d : Dialogue Q A α) (next : α → Dialogue Q A β) : Dialogue Q A β :=
  match d with
  | done result => next result
  | ask question rest => ask question fun answer => (rest answer).bind next

instance : Monad (Dialogue Q A) where
  pure := done
  bind := bind

/-- The dialogue of one question, whose result is the answer. -/
def question (q : Q) : Dialogue Q A (A q) := ask q done

/-- The result of a dialogue whose questions are answered from a state, and the last state. -/
def answered (answer : (q : Q) → σ → A q × σ) : Dialogue Q A α → σ → α × σ
  | done result, s => (result, s)
  | ask q next, s =>
    let (a, s') := answer q s
    (next a).answered answer s'

/-- Puts other questions in the place of each question. -/
def expand {P : Type} {B : P → Type} (f : (q : Q) → σ → Dialogue P B (A q × σ)) :
    Dialogue Q A α → σ → Dialogue P B (α × σ)
  | done result, s => done (result, s)
  | ask q next, s => (f q s).bind fun r => (next r.1).expand f r.2

@[simp]
theorem bind_done (d : Dialogue Q A α) : d.bind done = d := by
  induction d with
  | done => rfl
  | ask q next ih => simp [bind, ih]

theorem bind_bind {γ : Type} (d : Dialogue Q A α) (f : α → Dialogue Q A β)
    (g : β → Dialogue Q A γ) : (d.bind f).bind g = d.bind fun a => (f a).bind g := by
  induction d with
  | done => rfl
  | ask q next ih => simp [bind, ih]

/-- Answers come from the first part of a dialogue first. -/
theorem answered_bind (answer : (q : Q) → σ → A q × σ) (d : Dialogue Q A α)
    (next : α → Dialogue Q A β) (s : σ) :
    (d.bind next).answered answer s =
      (next (d.answered answer s).1).answered answer (d.answered answer s).2 := by
  induction d generalizing s with
  | done => rfl
  | ask q rest ih => simp [bind, answered, ih]

instance : LawfulMonad (Dialogue Q A) :=
  LawfulMonad.mk' _ bind_done (fun _ _ => rfl) bind_bind

end Dialogue

end DeviceOnboard
