import OptimisticCache.Json
/-!
# Requests

What is sent to the backend: a write with its method, path and payload, or a
read of a path.
-/

namespace OptimisticCache

/-- The method of a request. -/
structure Method where
  name : String
deriving DecidableEq

namespace Method

/-- The method of reads. -/
def get : Method :=
  ⟨"GET"⟩

/-- The method of requests that create something or act on it. -/
def post : Method :=
  ⟨"POST"⟩

/-- The method of deletions. -/
def delete : Method :=
  ⟨"DELETE"⟩

end Method

/-- A write request. -/
structure Request where
  method : Method
  path : String
  payload : Option Json
deriving DecidableEq

namespace Request

/-- A request that posts a payload. -/
def post (path : String) (payload : Json) : Request :=
  ⟨.post, path, some payload⟩

/-- A request that deletes what is at a path. -/
def delete (path : String) : Request :=
  ⟨.delete, path, none⟩

end Request

/-- One use of the backend. -/
inductive Call where
  | send (request : Request)
  | read (path : String)
deriving DecidableEq

end OptimisticCache
