import ChainProfile.Log.Level

/-! Values with the log they leave. What a step logs does not depend on the logger that reads it,
so it is kept as a list of actions, oldest first, that a logger replays. -/

namespace ChainProfile

inductive Log.Action
  | record (level : Log.Level) (target message : String)
  | context (tag : Option String)
  | configure (config : Log.Config)
  deriving DecidableEq, Repr

structure Logged (α : Type) where
  value : α
  log : List Log.Action

namespace Logged

protected def pure {α : Type} (value : α) : Logged α := ⟨value, []⟩

protected def bind {α β : Type} (x : Logged α) (next : α → Logged β) : Logged β :=
  let y := next x.value
  ⟨y.value, x.log ++ y.log⟩

instance : Monad Logged where
  pure := Logged.pure
  bind := Logged.bind

@[simp] theorem value_pure {α : Type} (a : α) : (pure a : Logged α).value = a := rfl

@[simp] theorem log_pure {α : Type} (a : α) : (pure a : Logged α).log = [] := rfl

@[simp] theorem value_bind {α β : Type} (x : Logged α) (next : α → Logged β) :
    (x >>= next).value = (next x.value).value := rfl

@[simp] theorem log_bind {α β : Type} (x : Logged α) (next : α → Logged β) :
    (x >>= next).log = x.log ++ (next x.value).log := rfl

def record (level : Log.Level) (target message : String) : Logged Unit :=
  ⟨(), [.record level target message]⟩

end Logged

end ChainProfile
