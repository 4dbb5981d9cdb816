import OptimisticCache.CommandLine.Arguments
import OptimisticCache.CommandLine.Query
import OptimisticCache.Config
/-!
# The program

The program loads the queries it is asked to preload, runs its command, and shows
the cache.  It is a value that is finished or waits for the answer to one call to
the backend, so whoever runs it only has to make the calls.
-/

namespace OptimisticCache
namespace CommandLine

/-- How the program ends, and what it prints. -/
structure Outcome where
  code : Nat
  output : String := ""
  errors : String := ""
deriving DecidableEq

/-- A program that is finished, or that waits for the answer to a call. -/
inductive Program where
  | finished (outcome : Outcome)
  | waiting (call : Call) (resume : Except BackendFailure Envelope → Program)

/-- Lines that follow the first one are indented. -/
def indent (text : String) : String :=
  String.intercalate "\n    " (text.splitOn "\n")

/-- The report of a failure and its cause. -/
def report (message : String) (cause : Option String) : String :=
  "Error: " ++ message ++
    (match cause with
      | some c => "\n\nCaused by:\n    " ++ indent c
      | none => "") ++ "\n"

/-- The end of a program that failed. -/
def failure (message : String) (cause : Option String) (output : String) : Outcome :=
  ⟨1, output, report message cause⟩

/-- The cache as it is shown. -/
def listing (c : Client) : String :=
  (cacheJson c.store).printIndented ++ "\n"

/-- Read a query from the backend, and go on with the outcome. -/
def fetch (c : Client) (k : QueryKey) (now : Int)
    (next : Except CacheError CacheValue → Client → Program) : Program :=
  match k.path? with
  | none => next (.error (.unroutable k)) c
  | some path =>
    .waiting (.read path) fun answer =>
      let (result, c) := c.fetchQuery (Backend.answering answer) k now
      next result c

/-- Load queries one after the other, and go on if all could be loaded. -/
def preload (now : Int) (next : Client → Program) : List String → Client → Program
  | [], c => next c
  | query :: rest, c =>
    match readQuery query with
    | .error fault => .finished (failure fault.message none "")
    | .ok k =>
      fetch c k now fun
        | .ok _, c => preload now next rest c
        | .error e, _ =>
          .finished (failure ("preloading '" ++ query ++ "'") (some e.message) "")

/-- What a committed mutation reports. -/
def committed (kind : MutationKind) (s : Settlement) : String :=
  kind.name ++ " committed (" ++ Decimal.natText s.reconciled.length ++ " keys merged, " ++
    Decimal.natText s.invalidated.length ++ " invalidated)\n"

/-- Run a mutation and show the cache, also if it was rolled back. -/
def mutate (c : Client) (m : Mutation) (now : Int) : Program :=
  .waiting (.send m.request) fun answer =>
    match c.mutate (Backend.answering answer) m now with
    | (.ok outcome, c) => .finished ⟨0, committed m.kind outcome.settlement ++ listing c, ""⟩
    | (.error e, c) =>
      .finished (failure (m.kind.name ++ " rolled back") (some e.message) (listing c))

/-- Run a command. -/
def perform (now : Int) (createdAt : String) (command : Command) (c : Client) : Program :=
  match command with
  | .mutate m => mutate c (m.toMutation createdAt) now
  | .fetch query =>
    match readQuery query with
    | .error fault => .finished (failure fault.message none "")
    | .ok k =>
      fetch c k now fun
        | .ok _, c => .finished ⟨0, listing c, ""⟩
        | .error e, _ => .finished (failure e.message none "")

/-- The configuration that options describe. -/
def configOf (o : Options) : Except ConfigFault Config := do
  let c ← Config.ofUrl o.baseUrl
  return { c with
    timeout := 1000 * o.timeout
    authToken := o.token.orElse fun _ => c.authToken }

/-- The program for a command, and the endpoint that it calls. -/
def start (now : Int) (createdAt : String) (o : Options) (command : Command) :
    Except Outcome (Endpoint × Program) :=
  match (configOf o).bind Config.connect with
  | .error fault => .error (failure (CacheError.config fault).message none "")
  | .ok (client, endpoint) =>
    .ok (endpoint, preload now (perform now createdAt command) o.preload client)

/-- The lines that tell how the program is used. -/
def usageLines : List String :=
  ["Run mutations against a backend and inspect the resulting cache",
    "",
    "Usage: querysync [OPTIONS] <COMMAND>",
    "",
    "Commands:",
    "  fetch    ",
    "  comment  ",
    "  post     ",
    "  help     Print this message or the help of the given subcommand(s)",
    "",
    "Options:",
    "      --base-url <BASE_URL>          Backend base URL; a token may be given as userinfo " ++
      "[default: http://localhost:8080/api]",
    "      --token <TOKEN>                Bearer token, overrides one embedded in the URL",
    "      --timeout-secs <TIMEOUT_SECS>  [default: 30]",
    "      --preload <PRELOAD>            Queries to load before running the command, e.g. " ++
      "`comments:p1`",
    "  -h, --help                         Print help"]

/-- How the program is used. -/
def usage : String :=
  String.join (usageLines.map fun line => line ++ "\n")

end CommandLine
end OptimisticCache
