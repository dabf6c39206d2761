/-!
Dialogues: questions asked one after the other, each in the light of the answers so far, and a
result in the end. Who answers is left open, so that what is said of a dialogue holds whoever does.
-/

namespace WorkspacePool

/-- A dialogue whose questions have answers of given types. -/
inductive Dialogue {Question : Type} (Answer : Question → Type) (α : Type) : Type where
  | done (result : α)
  | ask (question : Question) (next : Answer question → Dialogue Answer α)

namespace Dialogue

variable {Question : Type} {Answer : Question → Type} {α β γ : Type}

def bind : Dialogue Answer α → (α → Dialogue Answer β) → Dialogue Answer β
  | .done result, next => next result
  | .ask question rest, next => .ask question fun answer => (rest answer).bind next

instance : Monad (Dialogue Answer) where
  pure := .done
  bind := bind

/-- A single question. -/
def question (asked : Question) : Dialogue Answer (Answer asked) := .ask asked .done

@[simp] theorem pure_bind (result : α) (next : α → Dialogue Answer β) :
    (pure result : Dialogue Answer α) >>= next = next result := rfl

@[simp] theorem ask_bind (asked : Question) (rest : Answer asked → Dialogue Answer α)
    (next : α → Dialogue Answer β) :
    Dialogue.ask asked rest >>= next = .ask asked fun answer => rest answer >>= next := rfl

@[simp] theorem question_bind (asked : Question) (next : Answer asked → Dialogue Answer β) :
    question asked >>= next = .ask asked next := rfl

@[simp] theorem bind_pure (dialogue : Dialogue Answer α) : dialogue >>= pure = dialogue := by
  induction dialogue with
  | done result => rfl
  | ask asked rest ih => exact congrArg (Dialogue.ask asked) (funext ih)

theorem bind_assoc (dialogue : Dialogue Answer α) (first : α → Dialogue Answer β)
    (second : β → Dialogue Answer γ) :
    dialogue >>= first >>= second = dialogue >>= fun result => first result >>= second := by
  induction dialogue with
  | done result => rfl
  | ask asked rest ih => exact congrArg (Dialogue.ask asked) (funext ih)

end Dialogue

end WorkspacePool
