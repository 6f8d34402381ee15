import Recast.Context

/-!
# Shared — the one context that all parts of a program use

It can be installed once, before its first use, which creates a context of the primitives otherwise.
-/

namespace Recast

inductive ContextError where
  | alreadyInitialized
  deriving DecidableEq, Repr

def ContextError.message : ContextError → String
  | .alreadyInitialized => "the global cast context is already initialized"

structure SharedContext where
  current : Option Context

namespace SharedContext

def unset : SharedContext :=
  { current := none }

def install (s : SharedContext) (r : Registry) : Except ContextError SharedContext :=
  match s.current with
  | some _ => .error .alreadyInitialized
  | none => .ok { current := some (Context.ofRegistry r) }

def context (s : SharedContext) : Context :=
  s.current.getD Context.builtin

/-- Use the shared context, and keep it as it is afterwards. -/
def use {α : Type} (s : SharedContext) (f : Context → α × Context) : α × SharedContext :=
  let (answer, next) := f s.context
  (answer, { current := some next })

end SharedContext
end Recast
