import OptimisticCache.Mutation.Catalogue
/-!
# Arguments of the command line

Options come before the command they belong to; what follows the name of a
command belongs to the command.  An option is given once, unless it may be
repeated, with its value behind an equals sign or as the next argument.
-/

namespace OptimisticCache
namespace CommandLine

/-- What all commands have in common. -/
structure Options where
  baseUrl : String := "http://localhost:8080/api"
  token : Option String := none
  /-- How long a request may take, in seconds. -/
  timeout : Nat := 30
  /-- The queries to load before the command runs. -/
  preload : List String := []
deriving DecidableEq

/-- What is to be done. -/
inductive Command where
  | fetch (query : String)
  | mutate (mutation : CatalogueMutation)
deriving DecidableEq

/-- What the arguments ask for. -/
inductive Invocation where
  | run (options : Options) (command : Command)
  /-- Show how the program is used. -/
  | help
  /-- The arguments do not make sense. -/
  | misuse
deriving DecidableEq

/-! ## Options of one level -/

/-- The options of the program or of one command. -/
structure Level where
  /-- The options with a value that are given at most once. -/
  single : List String := []
  /-- The options with a value that may be repeated. -/
  repeated : List String := []
  /-- The options without a value. -/
  flags : List String := []

/-- What was found on a level: options with their values, flags, and other arguments. -/
structure Found where
  values : List (String × String) := []
  flags : List String := []
  others : List String := []

/-- Why reading stopped. -/
inductive Stop where
  | help
  | misuse

/-- The name of a long option and the value behind its equals sign. -/
def longOption? (argument : String) : Option (String × Option String) :=
  match argument.toList with
  | '-' :: '-' :: cs =>
    match cs.takeWhile (· ≠ '='), cs.dropWhile (· ≠ '=') with
    | name, _ :: value => some (String.ofList name, some (String.ofList value))
    | name, [] => some (String.ofList name, none)
  | _ => none

/-- Whether an argument looks like an option, so that it is no value. -/
def isOption (argument : String) : Bool :=
  match argument.toList with
  | '-' :: _ :: _ => true
  | _ => false

/-- Note the value of an option. -/
def Found.addValue (f : Found) (level : Level) (name value : String) : Except Stop Found :=
  if level.repeated.contains name then .ok { f with values := f.values ++ [(name, value)] }
  else if level.single.contains name ∧ (f.values.lookup name).isNone then
    .ok { f with values := f.values ++ [(name, value)] }
  else .error .misuse

/-- Note a flag. -/
def Found.addFlag (f : Found) (level : Level) (name : String) : Except Stop Found :=
  if level.flags.contains name ∧ !f.flags.contains name then
    .ok { f with flags := name :: f.flags }
  else if name = "help" then .error .help
  else .error .misuse

/-- Read the options of a level.  On the level of the program reading goes on up to the name of
a command, and answers what follows. -/
def readLevel (level : Level) (commands : List String) :
    Found → List String → Except Stop (Found × List String)
  | f, [] => .ok (f, [])
  | f, argument :: rest =>
    if commands.contains argument then .ok (f, argument :: rest)
    else if argument = "--" then .ok ({ f with others := f.others ++ rest }, [])
    else
      match longOption? argument with
      | some (name, some value) => do readLevel level commands (← f.addValue level name value) rest
      | some (name, none) =>
        if level.single.contains name ∨ level.repeated.contains name then
          match rest with
          | value :: rest =>
            if isOption value then .error .misuse
            else do readLevel level commands (← f.addValue level name value) rest
          | [] => .error .misuse
        else do readLevel level commands (← f.addFlag level name) rest
      | none =>
        if isOption argument then
          .error (if "-h".toList.isPrefixOf argument.toList then .help else .misuse)
        else readLevel level commands { f with others := f.others ++ [argument] } rest

/-! ## Commands -/

/-- The value of an option that has to be given. -/
def Found.needed (f : Found) (name : String) : Except Stop String :=
  match f.values.lookup name with
  | some value => .ok value
  | none => .error .misuse

/-- The direction of a vote. -/
def Found.direction (f : Found) : VoteDirection :=
  if f.flags.contains "down" then .down else .up

/-- Read the options of a command without other arguments. -/
def readLeaf (level : Level) (arguments : List String) : Except Stop Found := do
  let (f, _) ← readLevel level [] {} arguments
  if f.others.isEmpty then return f else throw .misuse

/-- A number of at most 64 bits. -/
def readWord (text : String) : Except Stop Nat :=
  let digits := match text.toList with
    | '+' :: cs => cs
    | cs => cs
  match Decimal.readNat digits with
  | some n => if n < UInt64.size then .ok n else .error .misuse
  | none => .error .misuse

/-- Read what is to be done with comments. -/
def readComment : List String → Except Stop CatalogueMutation
  | "create" :: rest => do
    let f ← readLeaf { single := ["project", "content", "author"] } rest
    return .createComment (← f.needed "project") (← f.needed "content") (f.values.lookup "author")
  | "delete" :: rest => do
    let f ← readLeaf { single := ["project", "id"] } rest
    return .deleteComment (← f.needed "project") (← f.needed "id") none
  | "vote" :: rest => do
    let f ← readLeaf { single := ["project", "id"], flags := ["down"] } rest
    return .voteComment (← f.needed "project") (← f.needed "id") f.direction
  | "help" :: _ | "--help" :: _ | "-h" :: _ => throw .help
  | _ => throw .misuse

/-- Read what is to be done with the posts of chains. -/
def readPost : List String → Except Stop CatalogueMutation
  | "create" :: rest => do
    let f ← readLeaf { single := ["chain", "title", "content"] } rest
    return .createChainPost (← f.needed "chain") (← f.needed "title") (← f.needed "content") none
  | "delete" :: rest => do
    let f ← readLeaf { single := ["chain", "id"] } rest
    return .deleteChainPost (← f.needed "chain") (← f.needed "id")
  | "vote" :: rest => do
    let f ← readLeaf { single := ["chain", "id"], flags := ["down"] } rest
    return .voteChainPost (← f.needed "chain") (← f.needed "id") f.direction
  | "help" :: _ | "--help" :: _ | "-h" :: _ => throw .help
  | _ => throw .misuse

/-- Read a command. -/
def readCommand : List String → Except Stop Command
  | "fetch" :: rest => do
    match (← readLevel {} [] {} rest).1.others with
    | [query] => return .fetch query
    | _ => throw .misuse
  | "comment" :: rest => return .mutate (← readComment rest)
  | "post" :: rest => return .mutate (← readPost rest)
  | "help" :: _ => throw .help
  | _ => throw .misuse

/-- The options of the program. -/
def programLevel : Level where
  single := ["base-url", "token", "timeout-secs"]
  repeated := ["preload"]

/-- Read options and a command. -/
def readProgram (arguments : List String) : Except Stop (Options × Command) := do
  let (f, rest) ← readLevel programLevel ["fetch", "comment", "post", "help"] {} arguments
  unless f.others.isEmpty do throw .misuse
  let standard : Options := {}
  let timeout ← match f.values.lookup "timeout-secs" with
    | some text => readWord text
    | none => pure standard.timeout
  let options : Options := {
    baseUrl := (f.values.lookup "base-url").getD standard.baseUrl
    token := f.values.lookup "token"
    timeout
    preload := (f.values.filter fun p => p.1 = "preload").map Prod.snd }
  return (options, ← readCommand rest)

/-- Read the arguments of the program. -/
def readArguments (arguments : List String) : Invocation :=
  match readProgram arguments with
  | .ok (options, command) => .run options command
  | .error .help => .help
  | .error .misuse => .misuse

end CommandLine
end OptimisticCache
