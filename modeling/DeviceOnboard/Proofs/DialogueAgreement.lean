import DeviceOnboard.Proofs.DialogueRuns
import Mathlib.Data.List.Basic

/-!
# Dialogues that two sources answer

Two sources may answer a question differently, as `same` says of each question. A dialogue is
steady if that makes no difference to how it goes on: then it puts the same questions to both
sources, and comes to the same result. Until the first question that gets different answers this is
so for every dialogue.
-/
namespace DeviceOnboard.Dialogue

variable {P Q : Type} {B : P → Type} {A : Q → Type} {α β ρ σ σ' : Type}

/-! ## The questions that are put to a source -/

/-- The questions that a dialogue puts when they are answered from a state, with their answers. -/
def trace (answer : (q : Q) → σ → A q × σ) : Dialogue Q A α → σ → Log Q A
  | done _, _ => []
  | ask q next, s => ⟨q, (answer q s).1⟩ :: (next (answer q s).1).trace answer (answer q s).2

theorem run_trace (answer : (q : Q) → σ → A q × σ) (d : Dialogue Q A α) (s : σ) :
    Run d (d.trace answer s) (d.answered answer s).1 := by
  induction d generalizing s with
  | done r => exact .done r
  | ask q next ih => exact .ask q next _ _ _ (ih _ _)

/-- Questions are put by the first part of a dialogue first. -/
theorem trace_bind (answer : (q : Q) → σ → A q × σ) (d : Dialogue Q A α)
    (next : α → Dialogue Q A β) (s : σ) :
    (d.bind next).trace answer s = d.trace answer s ++
      (next (d.answered answer s).1).trace answer (d.answered answer s).2 := by
  induction d generalizing s with
  | done => rfl
  | ask q rest ih => simp [bind, trace, answered, ih]

/-- All answers of a trace come from the source, from states with a property that it keeps. -/
theorem exists_state_of_trace {answer : (q : Q) → σ → A q × σ} {I : σ → Prop}
    (keeps : ∀ q s, I s → I (answer q s).2) {d : Dialogue Q A α} {s : σ} (start : I s) :
    ∀ entry ∈ d.trace answer s, ∃ t, I t ∧ entry.2 = (answer entry.1 t).1 := by
  induction d generalizing s with
  | done => simp [trace]
  | ask q next ih => exact List.forall_mem_cons.mpr ⟨⟨s, start, rfl⟩, ih _ (keeps q s start)⟩

/-! ## Two sources -/

/-- Two sources answer each question as `same` allows, from states that `R` relates before and
after. -/
def Alike (same : (q : Q) → A q → A q → Prop) (R : σ → σ' → Prop)
    (answer : (q : Q) → σ → A q × σ) (answer' : (q : Q) → σ' → A q × σ') : Prop :=
  ∀ q s t, R s t → same q (answer q s).1 (answer' q t).1 ∧ R (answer q s).2 (answer' q t).2

/-- Answers that are the same lead on to the same. -/
inductive Steady (same : (q : Q) → A q → A q → Prop) : Dialogue Q A α → Prop where
  | done (result : α) : Steady same (.done result)
  | ask {q : Q} {next : A q → Dialogue Q A α} (agree : ∀ a a', same q a a' → next a = next a')
      (rest : ∀ a, Steady same (next a)) : Steady same (.ask q next)

variable {same : (q : Q) → A q → A q → Prop} {R : σ → σ' → Prop}
  {answer : (q : Q) → σ → A q × σ} {answer' : (q : Q) → σ' → A q × σ'} {s : σ} {t : σ'}

theorem steady_bind {d : Dialogue Q A α} {f : α → Dialogue Q A β} (first : Steady same d)
    (next : ∀ a, Steady same (f a)) : Steady same (d.bind f) := by
  induction first with
  | done r => exact next r
  | ask agree _ ih => exact .ask (fun a a' h => congrArg (fun d => d.bind f) (agree a a' h)) ih

/-- A question whose answers are the same only if they are equal may be put at any time. -/
theorem steady_ask {q : Q} {next : A q → Dialogue Q A α} (certain : ∀ a a', same q a a' → a = a')
    (rest : ∀ a, Steady same (next a)) : Steady same (.ask q next) :=
  .ask (fun a a' h => congrArg next (certain a a' h)) rest

/-- As long as each question has just one answer that is the same, both sources give it. -/
theorem trace_until {d : Dialogue Q A α} {before after : Log Q A} {q : Q} {a : A q}
    (alike : Alike same R answer answer') (related : R s t)
    (certain : ∀ entry ∈ before, ∀ b, same entry.1 entry.2 b → b = entry.2)
    (found : d.trace answer s = before ++ ⟨q, a⟩ :: after) :
    ∃ a' after', d.trace answer' t = before ++ ⟨q, a'⟩ :: after' ∧ same q a a' := by
  induction before generalizing d s t with
  | nil =>
    cases d with
    | done => cases found
    | ask p next =>
      cases found
      exact ⟨_, _, rfl, (alike _ s t related).1⟩
  | cons entry before ih =>
    cases d with
    | done => cases found
    | ask p next =>
      obtain ⟨first, rest⟩ := List.cons.inj found
      subst first
      obtain ⟨here, later⟩ := List.forall_mem_cons.mp certain
      obtain ⟨given, related'⟩ := alike p s t related
      have equal : (answer' p t).1 = (answer p s).1 := here _ given
      obtain ⟨a', after', split, last⟩ := ih related' later rest
      refine ⟨a', after', ?_, last⟩
      unfold trace
      rw [equal, split]
      rfl

/-! ## Answers from another dialogue -/

/-- The questions that are put to a source, without their answers. -/
def asked (answer : (q : Q) → σ → A q × σ) (d : Dialogue Q A α) (s : σ) : List Q :=
  (d.trace answer s).map (·.1)

/-- Two sources are asked the same by two dialogues. The results are related by `E`, and the last
states by `R`. -/
structure Together (E : α → β → Prop) (R : σ → σ' → Prop) (answer : (q : Q) → σ → A q × σ)
    (answer' : (q : Q) → σ' → A q × σ') (d : Dialogue Q A α) (d' : Dialogue Q A β) (s : σ)
    (t : σ') : Prop where
  asked : d.asked answer s = d'.asked answer' t
  result : E (d.answered answer s).1 (d'.answered answer' t).1
  state : R (d.answered answer s).2 (d'.answered answer' t).2

theorem Together.imp {d : Dialogue Q A α} {d' : Dialogue Q A β} {E E' : α → β → Prop}
    (h : Together E R answer answer' d d' s t) (weaker : ∀ a b, E a b → E' a b) :
    Together E' R answer answer' d d' s t :=
  ⟨h.asked, weaker _ _ h.result, h.state⟩

theorem together_bind {γ δ : Type} {d : Dialogue Q A α} {d' : Dialogue Q A β}
    {f : α → Dialogue Q A γ} {f' : β → Dialogue Q A δ} {E : α → β → Prop} {E' : γ → δ → Prop}
    (first : Together E R answer answer' d d' s t)
    (next : Together E' R answer answer' (f (d.answered answer s).1) (f' (d'.answered answer' t).1)
      (d.answered answer s).2 (d'.answered answer' t).2) :
    Together E' R answer answer' (d.bind f) (d'.bind f') s t where
  asked := by
    have one := first.asked
    have two := next.asked
    unfold Dialogue.asked at one two ⊢
    rw [trace_bind, trace_bind, List.map_append, List.map_append, one, two]
  result := by
    rw [answered_bind, answered_bind]
    exact next.result
  state := by
    rw [answered_bind, answered_bind]
    exact next.state

theorem together_of_steady {d : Dialogue Q A α} (alike : Alike same R answer answer')
    (steady : Steady same d) (related : R s t) : Together Eq R answer answer' d d s t := by
  induction steady generalizing s t with
  | done r => exact ⟨rfl, rfl, related⟩
  | @ask q next agree _ ih =>
    obtain ⟨given, related'⟩ := alike q s t related
    have rest := ih (answer q s).1 related'
    have equal : next (answer' q t).1 = next (answer q s).1 := (agree _ _ given).symm
    exact ⟨by simpa [Dialogue.asked, trace, equal] using rest.asked,
      by simpa [answered, equal] using rest.result, by simpa [answered, equal] using rest.state⟩

/-- Questions are answered by dialogues with a source, which may also keep something in mind. -/
def through (f : (q : Q) → ρ → Dialogue P B (A q × ρ)) (answer : (p : P) → σ → B p × σ) (q : Q)
    (state : ρ × σ) : A q × (ρ × σ) :=
  let x := (f q state.1).answered answer state.2
  (x.1.1, (x.1.2, x.2))

theorem answered_expand (f : (q : Q) → ρ → Dialogue P B (A q × ρ))
    (answer : (p : P) → σ → B p × σ) (d : Dialogue Q A α) (r : ρ) (s : σ) :
    (d.expand f r).answered answer s =
      (((d.answered (through f answer) (r, s)).1, (d.answered (through f answer) (r, s)).2.1),
        (d.answered (through f answer) (r, s)).2.2) := by
  induction d generalizing r s with
  | done => rfl
  | ask q next ih =>
    show ((f q r).bind _).answered answer s = _
    rw [answered_bind, ih]
    rfl

/-- A steady dialogue whose questions are answered by dialogues puts the same questions to two
sources, if all answers are admitted. -/
theorem together_expand {admitted : (q : Q) × A q → Prop}
    {f : (q : Q) → ρ → Dialogue P B (A q × ρ)} {source : (p : P) → σ → B p × σ}
    {source' : (p : P) → σ' → B p × σ'} {d : Dialogue Q A α} {r : ρ}
    (each : ∀ q r s t, R s t →
      Together (fun x x' => same q x.1 x'.1 ∧ x.2 = x'.2) R source source' (f q r) (f q r) s t)
    (steady : Steady (fun q a a' => same q a a' ∧ admitted ⟨q, a⟩) d) (related : R s t)
    (all : ∀ entry ∈ d.trace (through f source) (r, s), admitted entry) :
    d.asked (through f source) (r, s) = d.asked (through f source') (r, t) ∧
      Together Eq R source source' (d.expand f r) (d.expand f r) s t := by
  induction steady generalizing r s t with
  | done result => exact ⟨rfl, rfl, rfl, related⟩
  | @ask q next agree _ ih =>
    have first := each q r s t related
    obtain ⟨here, later⟩ := List.forall_mem_cons.mp all
    have equal : next ((f q r).answered source' t).1.1 = next ((f q r).answered source s).1.1 :=
      (agree _ _ ⟨first.result.1, here⟩).symm
    obtain ⟨outer, inner⟩ := ih _ first.state later
    refine ⟨?_, together_bind first ?_⟩
    · have rest := congrArg (q :: ·) outer
      simpa [Dialogue.asked, trace, through, equal, first.result.2] using rest
    · rw [equal, ← first.result.2]
      exact inner

end DeviceOnboard.Dialogue
