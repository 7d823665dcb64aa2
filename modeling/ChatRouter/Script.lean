set_option autoImplicit false

/-!
# Scripts

A script is a computation as a tree: it ends with a value or asks a question and goes on with the
answer. What answers its questions is a parameter of `Script.run`, so the same script runs on a store,
on a store whose calls fail, or one question at a time beside another script.
-/

namespace ChatRouter

inductive Script (Question : Type) (Answer : Question → Type) (α : Type) where
  | done (value : α)
  | ask (question : Question) (next : Answer question → Script Question Answer α)

namespace Script

variable {Question Question' : Type} {Answer : Question → Type} {Answer' : Question' → Type}
variable {α β σ : Type}

def bind (p : Script Question Answer α) (f : α → Script Question Answer β) :
    Script Question Answer β :=
  match p with
  | done a => f a
  | ask q next => ask q fun a => bind (next a) f

instance : Monad (Script Question Answer) where
  pure := done
  bind := bind

def question (q : Question) : Script Question Answer (Answer q) := ask q done

/-- Runs a script, with `answer` answering each question in a state of its own. -/
def run (answer : (q : Question) → σ → Answer q × σ) : Script Question Answer α → σ → α × σ
  | done a, s => (a, s)
  | ask q next, s => run answer (next (answer q s).1) (answer q s).2

def mapQuestions (question : Question → Question') (back : (q : Question) → Answer' (question q) → Answer q) :
    Script Question Answer α → Script Question' Answer' α
  | done a => done a
  | ask q next => ask (question q) fun a => mapQuestions question back (next (back q a))

@[simp] theorem run_done (answer : (q : Question) → σ → Answer q × σ) (a : α) (s : σ) :
    (done a : Script Question Answer α).run answer s = (a, s) := rfl

@[simp] theorem run_ask (answer : (q : Question) → σ → Answer q × σ) (q : Question)
    (next : Answer q → Script Question Answer α) (s : σ) :
    (ask q next).run answer s = (next (answer q s).1).run answer (answer q s).2 := rfl

theorem run_bind (answer : (q : Question) → σ → Answer q × σ) (p : Script Question Answer α)
    (f : α → Script Question Answer β) (s : σ) :
    (p >>= f).run answer s = (f (p.run answer s).1).run answer (p.run answer s).2 := by
  induction p generalizing s with
  | done a => rfl
  | ask q next ih => exact ih _ _

/-- What a script may go on as after its first question. -/
def Rest (p q : Script Question Answer α) : Prop :=
  match q with
  | done _ => False
  | ask _ next => ∃ a, p = next a

theorem wf_rest : WellFounded (@Rest Question Answer α) := by
  refine ⟨fun p => ?_⟩
  induction p with
  | done a => exact ⟨_, fun _ h => h.elim⟩
  | ask q next ih => exact ⟨_, fun _ ⟨a, h⟩ => h ▸ ih a⟩

theorem bind_done (p : Script Question Answer α) : p >>= done = p := by
  induction p with
  | done a => rfl
  | ask q next ih => exact congrArg (ask q) (funext ih)

end Script

end ChatRouter
