/-!
# States of a mutation

A mutation is pending until it settles, and it settles for good: by a commit or
by a rollback.
-/

namespace OptimisticCache

/-- The state of a mutation. -/
inductive MutationState where
  /-- The provisional values are in the cache and the request is out. -/
  | pending
  /-- The backend accepted the mutation and its result is merged. -/
  | committed
  /-- The mutation failed or was given up, and its values are taken back. -/
  | rolledBack
deriving DecidableEq

namespace MutationState

/-- Whether the mutation is still pending. -/
def isPending : MutationState → Bool
  | pending => true
  | _ => false

/-- Whether the mutation has settled for good. -/
def isTerminal : MutationState → Bool
  | pending => false
  | _ => true

/-- The state in words. -/
def name : MutationState → String
  | pending => "PENDING"
  | committed => "COMMITTED"
  | rolledBack => "ROLLED_BACK"

theorem isPending_iff {s : MutationState} : s.isPending = true ↔ s = .pending := by
  cases s <;> simp [isPending]

end MutationState

/-- What was asked of a mutation. -/
inductive SettleAction where
  | commit
  | rollback
deriving DecidableEq

/-- The action in words. -/
def SettleAction.name : SettleAction → String
  | commit => "commit"
  | rollback => "rollback"

end OptimisticCache
