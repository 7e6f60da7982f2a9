/-!
Programs as trees of their operations: a program is done, or performs an operation and goes on with
the reply. What an operation does is left to whoever runs the program.
-/

namespace ConsumerConnector

inductive Program (Op : Type) (Reply : Op → Type) (α : Type)
  | done (a : α)
  | perform (op : Op) (next : Reply op → Program Op Reply α)

namespace Program

variable {Op : Type} {Reply : Op → Type} {α β : Type}

def bind (p : Program Op Reply α) (f : α → Program Op Reply β) : Program Op Reply β :=
  match p with
  | .done a => f a
  | .perform op next => .perform op fun r => (next r).bind f

instance : Monad (Program Op Reply) where
  pure := .done
  bind := .bind

/-- The program of a single operation. -/
def operation (op : Op) : Program Op Reply (Reply op) :=
  .perform op .done

/-- Runs a program with a state that every operation may change. -/
def run {σ : Type} (answer : (op : Op) → σ → Reply op × σ) : Program Op Reply α → σ → α × σ
  | .done a, s => (a, s)
  | .perform op next, s =>
    let (r, s) := answer op s
    (next r).run answer s

@[simp] theorem done_bind (a : α) (f : α → Program Op Reply β) :
    (done a : Program Op Reply α).bind f = f a := rfl

@[simp] theorem perform_bind (op : Op) (next : Reply op → Program Op Reply α)
    (f : α → Program Op Reply β) :
    (perform op next).bind f = .perform op fun r => (next r).bind f := rfl

theorem run_bind {σ : Type} (answer : (op : Op) → σ → Reply op × σ) (p : Program Op Reply α)
    (f : α → Program Op Reply β) (s : σ) :
    (p.bind f).run answer s = (f (p.run answer s).1).run answer (p.run answer s).2 := by
  induction p generalizing s with
  | done a => rfl
  | perform op next ih => exact ih ..

end Program

end ConsumerConnector
