/-!
Computations that ask questions. A dialogue is over, with a result, or it has one question to
ask and a way to go on for every answer to it. Who answers is left open: `conduct` lets a
state answer, and since one question is one step of it, two dialogues with the same state can
also take turns. `conduct_bind` says that a longer dialogue is conducted part by part.
-/

namespace DocMapper

/-- A computation with questions in `Q`; what counts as an answer depends on the question. -/
inductive Dialogue {Q : Type} (Answer : Q → Type) (α : Type) : Type where
  | done (result : α)
  | ask (question : Q) (next : Answer question → Dialogue Answer α)

namespace Dialogue

variable {Q : Type} {Answer : Q → Type} {α β σ : Type}

def bind : Dialogue Answer α → (α → Dialogue Answer β) → Dialogue Answer β
  | .done result, f => f result
  | .ask question next, f => .ask question fun answer => (next answer).bind f

instance : Monad (Dialogue Answer) where
  pure := .done
  bind := bind

/-- Lets a state answer every question in turn, and change with each. -/
def conduct (answer : (q : Q) → σ → Answer q × σ) : Dialogue Answer α → σ → α × σ
  | .done result, s => (result, s)
  | .ask question next, s =>
      let (reply, s) := answer question s
      conduct answer (next reply) s

/-- Turns a dialogue into one with other questions, by way of a dialogue for every question. -/
def through {R : Type} {Other : R → Type} (carry : (q : Q) → Dialogue Other (Answer q)) :
    Dialogue Answer α → Dialogue Other α
  | .done result => .done result
  | .ask question next => (carry question).bind fun answer => through carry (next answer)

@[simp] theorem pure_eq_done (a : α) : (pure a : Dialogue Answer α) = .done a := rfl

@[simp] theorem bind_eq (d : Dialogue Answer α) (f : α → Dialogue Answer β) : d >>= f = d.bind f := rfl

@[simp] theorem done_bind (a : α) (f : α → Dialogue Answer β) : (done a).bind f = f a := rfl

@[simp] theorem ask_bind (q : Q) (next : Answer q → Dialogue Answer α) (f : α → Dialogue Answer β) :
    (ask q next).bind f = .ask q fun answer => (next answer).bind f := rfl

@[simp] theorem conduct_done (answer : (q : Q) → σ → Answer q × σ) (a : α) (s : σ) :
    conduct answer (.done a) s = (a, s) := rfl

@[simp] theorem conduct_ask (answer : (q : Q) → σ → Answer q × σ) (q : Q)
    (next : Answer q → Dialogue Answer α) (s : σ) :
    conduct answer (.ask q next) s = conduct answer (next (answer q s).1) (answer q s).2 := rfl

theorem conduct_bind (answer : (q : Q) → σ → Answer q × σ) (d : Dialogue Answer α)
    (f : α → Dialogue Answer β) (s : σ) :
    conduct answer (d.bind f) s = conduct answer (f (conduct answer d s).1) (conduct answer d s).2 := by
  induction d generalizing s with
  | done a => rfl
  | ask q next ih => simp [ih]

end Dialogue

end DocMapper
