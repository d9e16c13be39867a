import ChatGateway.Failure

/-!
# Work that asks something of the outside world

Effects are data: work comes with the list of what it asked for, in order, and with its result.
After a failure nothing more is asked for.
-/
namespace ChatGateway

structure Traced (ε α : Type) where
  effects : List ε
  result : Except Failure α

namespace Traced

variable {ε α β : Type}

def succeed (value : α) : Traced ε α := ⟨[], .ok value⟩

/-- Work that asks for nothing. -/
def ofExcept (result : Except Failure α) : Traced ε α := ⟨[], result⟩

/-- Asks once and gets an answer. -/
def ask (effect : ε) (answer : Except Failure α) : Traced ε α := ⟨[effect], answer⟩

def andThen (work : Traced ε α) (next : α → Traced ε β) : Traced ε β :=
  match work.result with
  | .ok value => ⟨work.effects ++ (next value).effects, (next value).result⟩
  | .error failure => ⟨work.effects, .error failure⟩

instance : Monad (Traced ε) where
  pure := succeed
  bind := andThen

/-- Does the same work for each item, in order. -/
def forEach (work : α → Traced ε β) : List α → Traced ε (List β)
  | [] => succeed []
  | item :: rest => do
    let value ← work item
    let values ← forEach work rest
    pure (value :: values)

/-- The same work with its effects seen as others. -/
def mapEffects {δ : Type} (f : ε → δ) (work : Traced ε α) : Traced δ α :=
  ⟨work.effects.map f, work.result⟩

end Traced

end ChatGateway
