import OptimisticCache.Text.Decimal
/-!
# Failures of a request

A request fails because the backend was not reached, because it refused the
request, because the request conflicts with what the backend holds, because the
backend itself failed, or because its answer could not be decoded.  The reason
given by the backend is kept word for word.

Main results:

- Theorem {lit}`BackendFailure.status?_ofStatus`: the status of a refusal is kept.
-/

namespace OptimisticCache

/-- Why a single request failed. -/
inductive BackendFailure where
  | network (reason : String)
  | validation (status : Nat) (reason : String)
  | conflict (reason : String)
  | server (status : Nat) (reason : String)
  | decode (reason : String)
deriving DecidableEq

namespace BackendFailure

/-- The failure behind a status that is not a success: 409 is a conflict, the other
statuses from 400 to 499 refuse the request. -/
def ofStatus (status : Nat) (reason : String) : BackendFailure :=
  if status = 409 then conflict reason
  else if 400 ≤ status ∧ status ≤ 499 then validation status reason
  else server status reason

/-- The reason, word for word. -/
def reason : BackendFailure → String
  | network r | validation _ r | conflict r | server _ r | decode r => r

/-- The status, if the backend answered at all. -/
def status? : BackendFailure → Option Nat
  | validation s _ | server s _ => some s
  | conflict _ => some 409
  | network _ | decode _ => none

/-- The failure in words. -/
def message : BackendFailure → String
  | network r => "Network error: " ++ r
  | validation s r => "Validation error (" ++ Decimal.natText s ++ "): " ++ r
  | conflict r => "Conflict: " ++ r
  | server s r => "Server error (" ++ Decimal.natText s ++ "): " ++ r
  | decode r => "Decode error: " ++ r

/-- The status of a refused request is kept. -/
theorem status?_ofStatus (status : Nat) (r : String) :
    (ofStatus status r).status? = some status := by
  unfold ofStatus
  split
  · rename_i h
    rw [h]
    rfl
  · split <;> rfl

end BackendFailure
end OptimisticCache
