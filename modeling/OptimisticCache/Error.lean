import OptimisticCache.Backend.Failure
import OptimisticCache.Item
import OptimisticCache.Json.Printer
import OptimisticCache.Mutation.State
import OptimisticCache.Query.Key
import OptimisticCache.Url.Fault
/-!
# Errors

What can go wrong, as causes; the wording of each cause is in one function.
-/

namespace OptimisticCache

/-- Why a payload cannot be normalized. -/
inductive PayloadFault where
  /-- An object was expected. -/
  | notAnObject (found : Json)
  /-- A list was expected. -/
  | notAList (found : Json)
  /-- None of the accepted names holds an identifier. -/
  | missingIdentifier
  /-- The counter under a name is not a whole number. -/
  | notWhole (name : String) (found : Json)
deriving DecidableEq

/-- The fault in words. -/
def PayloadFault.message : PayloadFault → String
  | notAnObject found => "expected an object, got " ++ found.kindName
  | notAList found => "expected a list, got " ++ found.kindName
  | missingIdentifier => "missing identifier"
  | notWhole name found => "'" ++ name ++ "' is not a whole number: " ++ found.print

/-- Why a configuration cannot be used. -/
inductive ConfigFault where
  | invalidUrl (url : String) (fault : UrlFault)
  | unsupportedScheme
  | unsupportedBaseUrl (url : String)
  | zeroTimeout
  | emptyToken
  | invalidUserAgent
  | workerAttached
deriving DecidableEq

/-- The fault in words. -/
def ConfigFault.message : ConfigFault → String
  | invalidUrl url fault => "invalid URL '" ++ url ++ "': " ++ fault.message
  | unsupportedScheme => "URL must start with 'http://' or 'https://'"
  | unsupportedBaseUrl url =>
    "base_url '" ++ url ++ "' must start with 'http://' or 'https://'"
  | zeroTimeout => "timeout must be > 0"
  | emptyToken => "auth_token cannot be empty"
  | invalidUserAgent => "cannot build HTTP client: builder error: failed to parse header value"
  | workerAttached => "a refetch worker is already attached to this store"

/-- What an operation of the cache reports when it fails. -/
inductive CacheError where
  /-- The backend failed a request. -/
  | request (failure : BackendFailure)
  /-- A payload of the named subject cannot be normalized. -/
  | payload (subject : String) (fault : PayloadFault)
  /-- The mutation has settled before. -/
  | settled (action : SettleAction) (mutation : MutationId) (state : MutationState)
  /-- The configuration cannot be used. -/
  | config (fault : ConfigFault)
  /-- The query has no path on the backend. -/
  | unroutable (key : QueryKey)
deriving DecidableEq

namespace CacheError

/-- The error in words. -/
def message : CacheError → String
  | request failure => failure.message
  | payload subject fault => "Cannot normalize " ++ subject ++ " payload: " ++ fault.message
  | settled action mutation state =>
    "Invalid transition: Cannot " ++ action.name ++ ": mutation " ++ mutation.display ++
      " is already " ++ state.name
  | config fault => "Configuration error: " ++ fault.message
  | unroutable key => "Query '" ++ key.display ++ "' has no backend path"

/-- The failure of a request behind the error, if there is one. -/
def failure? : CacheError → Option BackendFailure
  | request failure => some failure
  | _ => none

/-- A result that was mapped succeeds only if the result itself did. -/
theorem exists_of_map_eq_ok {α β : Type} {f : α → β} {result : Except CacheError α} {b : β}
    (h : result.map f = .ok b) : ∃ a, result = .ok a ∧ f a = b := by
  cases result with
  | error e => cases h
  | ok a => exact ⟨a, rfl, Except.ok.inj h⟩

end CacheError
end OptimisticCache
