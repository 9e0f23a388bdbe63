/-!
# Guarded values

A value behind a lock. Once an access has failed half way, the value may be broken, and every
later access is refused.
-/

namespace DebugDashboard

/-- A value behind a lock. -/
inductive Guarded (α : Type) where
  | available (value : α)
  | poisoned
  deriving Repr, DecidableEq

/-- Why a guarded value cannot be had. -/
inductive GuardError where
  | poisoned
  deriving Repr, DecidableEq

def GuardError.message : GuardError → String
  | .poisoned => "debug state mutex poisoned: poisoned lock: another task failed inside"

namespace Guarded

def snapshot {α : Type} : Guarded α → Except GuardError α
  | available value => .ok value
  | poisoned => .error .poisoned

/-- The value changed by `f`, as one step. -/
def update {α : Type} (f : α → α) : Guarded α → Except GuardError (Guarded α)
  | available value => .ok (available (f value))
  | poisoned => .error .poisoned

end Guarded

end DebugDashboard
