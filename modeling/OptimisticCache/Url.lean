import OptimisticCache.Url.Host
import OptimisticCache.Url.Path
/-!
# URLs

A web address has a scheme, credentials, a host, a port, a path, a query and a
fragment.  A text is read as one in a forgiving way: controls and blanks around
it are dropped, line ends and tabs inside it too, any number of slashes may stand
before the host, and what may not stand in a component is percent-encoded.

Main results:

- Theorem {lit}`Url.ofText_wellFormed`: the components of an address that was read
  consist of the characters that are allowed in them.
- Theorem {lit}`Url.WellFormed.target_visible`: what a request asks for has no blanks
  and controls.
-/

namespace OptimisticCache

/-- A web address; all its components are percent-encoded. -/
structure Url where
  scheme : List Char
  username : List Char := []
  password : Option (List Char) := none
  host : Host
  /-- The port, if it is not the one of the scheme. -/
  port : Option Nat := none
  path : UrlPath
  query : Option (List Char) := none
  fragment : Option (List Char) := none

namespace Url

/-! ## Writing -/

/-- The credentials in front of the host. -/
def credentialChars (u : Url) : List Char :=
  match u.username, u.password with
  | [], none => []
  | name, none => name ++ ['@']
  | name, some password => name ++ ':' :: password ++ ['@']

/-- The path and the query, as a request asks for them. -/
def target (u : Url) : List Char :=
  u.path.chars ++
    match u.query with
    | some q => '?' :: q
    | none => []

/-- The text of an address. -/
def chars (u : Url) : List Char :=
  u.scheme ++ "://".toList ++ u.credentialChars ++ u.host.chars ++
    (match u.port with
      | some p => ':' :: Decimal.digits p
      | none => []) ++
    u.target ++
    match u.fragment with
    | some f => '#' :: f
    | none => []

/-- The address without a user name and password. -/
def withoutCredentials (u : Url) : Url :=
  { u with username := [], password := none }

/-! ## Reading -/

/-- How a URL is read after its scheme. -/
inductive Form where
  /-- As a web address. -/
  | web (defaultPort : Nat)
  /-- As the name of a file. -/
  | file
  /-- With a host only after two slashes. -/
  | other
deriving DecidableEq

/-- How the URLs of a scheme are read. -/
def formOf (scheme : String) : Form :=
  if scheme = "http" ∨ scheme = "ws" then .web 80
  else if scheme = "https" ∨ scheme = "wss" then .web 443
  else if scheme = "ftp" then .web 21
  else if scheme = "file" then .file
  else .other

/-- The characters that count: none of the controls and blanks around the text, and no line
ends and tabs. -/
def clean (text : String) : List Char :=
  let isEdge (c : Char) : Bool := c.toNat ≤ 0x20
  let kept := ((text.toList.dropWhile isEdge).reverse.dropWhile isEdge).reverse
  kept.filter fun c => !(c = '\t' || c = '\n' || c = '\r')

/-- Whether a character may stand in a scheme. -/
def isSchemeChar (c : Char) : Bool :=
  c.isAlphanum || c = '+' || c = '-' || c = '.'

/-- The scheme in lower case, and what follows its colon. -/
def scheme? (cs : List Char) : Option (List Char × List Char) :=
  match cs.takeWhile isSchemeChar, cs.dropWhile isSchemeChar with
  | c :: name, ':' :: rest =>
    if c.isAlpha then some ((c :: name).map Char.toLower, rest) else none
  | _, _ => none

/-- What stands before the last at sign, and what stands behind it. -/
def splitLastAt (cs : List Char) : Option (List Char × List Char) :=
  let parts := cs.splitOn '@'
  match parts.getLast? with
  | some last =>
    if parts.length = 1 then none
    else some (List.intercalate ['@'] parts.dropLast, last)
  | none => none

/-- The user name and the password of credentials; an empty password is none. -/
def credentials (cs : List Char) : List Char × Option (List Char) :=
  let encode := Percent.encode Percent.escapedInUser
  match cs.takeWhile (· ≠ ':'), cs.dropWhile (· ≠ ':') with
  | name, _ :: p :: password => (encode name, some (encode (p :: password)))
  | name, _ => (encode name, none)

/-- The host up to a colon outside brackets, and the rest. -/
def spanHost (inside : Bool) : List Char → List Char × List Char
  | [] => ([], [])
  | c :: cs =>
    if c = ':' ∧ ¬inside then ([], c :: cs)
    else
      let inside := if c = '[' then true else if c = ']' then false else inside
      let r := spanHost inside cs
      (c :: r.1, r.2)

/-- The number of a port; no digits are no port. -/
def portOf (cs : List Char) : Except UrlFault (Option Nat) :=
  if cs.isEmpty then .ok none
  else
    match Decimal.readNat cs with
    | some n => if n < UInt16.size then .ok (some n) else .error .invalidPort
    | none => .error .invalidPort

/-- What stands between the slashes and the path. -/
structure Authority where
  username : List Char
  password : Option (List Char)
  host : Host
  port : Option Nat

/-- Read the host and the port. -/
def hostAndPort (readHost : List Char → Except UrlFault Host) (cs : List Char) :
    Except UrlFault (Host × Option Nat) := do
  let (name, rest) := spanHost false cs
  let host ← readHost name
  match rest with
  | ':' :: digits =>
    if name.isEmpty then .error .emptyHost else return (host, ← portOf (digits.takeWhile (· ≠ '\\')))
  | _ => return (host, none)

/-- Read credentials, the host and the port of a web address; the port of the scheme is
left out. -/
def webAuthority (defaultPort : Nat) (cs : List Char) : Except UrlFault Authority := do
  let (front, rest) := (splitLastAt cs).getD ([], cs)
  if (spanHost false rest).1.isEmpty then throw .emptyHost
  let (username, password) := credentials front
  let (host, port) ← hostAndPort Host.ofChars rest
  return ⟨username, password, host, port.filter (· ≠ defaultPort)⟩

/-- The query and the fragment. -/
def tail (cs : List Char) : Option (List Char) × Option (List Char) :=
  let fragment := match cs.dropWhile (· ≠ '#') with
    | _ :: f => some (Percent.encode Percent.escapedInFragment f)
    | [] => none
  match cs.takeWhile (· ≠ '#') with
  | '?' :: q => (some (Percent.encode Percent.escapedInQuery q), fragment)
  | _ => (none, fragment)

/-- Whether a character ends the host and port of a web address. -/
def endsAuthority (c : Char) : Bool :=
  c = '/' || c = '\\' || c = '?' || c = '#'

/-- Read a web address after the colon of its scheme. -/
def webOf (scheme : List Char) (defaultPort : Nat) (cs : List Char) : Except UrlFault Url := do
  let cs := cs.dropWhile UrlPath.isSeparator
  let isPath (c : Char) : Bool := c ≠ '?' && c ≠ '#'
  let a ← webAuthority defaultPort (cs.takeWhile fun c => !endsAuthority c)
  let rest := cs.dropWhile fun c => !endsAuthority c
  let (query, fragment) := tail (rest.dropWhile isPath)
  return {
    scheme, username := a.username, password := a.password, host := a.host, port := a.port,
    path := UrlPath.ofChars (rest.takeWhile isPath), query, fragment }

/-- Check the name of a file: only a host may be wrong. -/
def checkFile : List Char → Except UrlFault Unit
  | a :: b :: cs =>
    let name := cs.takeWhile fun c => !endsAuthority c
    if UrlPath.isSeparator a ∧ UrlPath.isSeparator b ∧ name ≠ [] ∧ ¬UrlPath.isDrive name then
      (Host.ofChars name).map fun _ => ()
    else .ok ()
  | _ => .ok ()

/-- Check a URL of another kind: its host may be empty, but then nothing may belong to it. -/
def checkOther : List Char → Except UrlFault Unit
  | '/' :: '/' :: cs => do
    let isEnd (c : Char) : Bool := c = '/' || c = '?' || c = '#'
    let cs' := cs.takeWhile fun c => !isEnd c
    match splitLastAt cs' with
    | none => discard (hostAndPort Host.ofOpaque cs')
    | some (front, rest) =>
      let hasUser := front ≠ [] ∧ front ≠ [':']
      if rest.isEmpty ∧ (hasUser ∨ (front.isEmpty ∧ cs'.length < cs.length)) then
        throw .emptyHost
      discard (hostAndPort Host.ofOpaque rest)
  | _ => .ok ()

/-- Read a URL; there is no web address in a URL of another kind. -/
def ofText (text : String) : Except UrlFault (Option Url) :=
  match scheme? (clean text) with
  | none => .error .relativeWithoutBase
  | some (scheme, rest) =>
    match formOf (String.ofList scheme) with
    | .web defaultPort => (webOf scheme defaultPort rest).map some
    | .file => (checkFile rest).map fun _ => none
    | .other => (checkOther rest).map fun _ => none

/-! ## Addresses that were read -/

/-- What holds of every address that was read: its components consist of the characters that are
allowed in them. -/
structure WellFormed (u : Url) : Prop where
  host_ne_nil : u.host.chars ≠ []
  host : ∀ c ∈ u.host.chars, Domain.isForbidden c = false ∨ c = '[' ∨ c = ':' ∨ c = ']'
  path_ne_nil : u.path ≠ []
  path : ∀ segment ∈ u.path, UrlPath.Stands segment
  username : ∀ c ∈ u.username, Percent.escapedInUser c = false
  password : ∀ p ∈ u.password, p ≠ [] ∧ ∀ c ∈ p, Percent.escapedInUser c = false
  port : ∀ p ∈ u.port, p < UInt16.size
  query : ∀ q ∈ u.query, ∀ c ∈ q, Percent.escapedInQuery c = false
  fragment : ∀ f ∈ u.fragment, ∀ c ∈ f, Percent.escapedInFragment c = false

/-- The steps of a computation that succeeds succeed. -/
theorem exists_of_bind_eq_ok {ε α β : Type} {x : Except ε α} {f : α → Except ε β} {b : β}
    (h : x >>= f = .ok b) : ∃ a, x = .ok a ∧ f a = .ok b := by
  cases x with
  | error e => cases h
  | ok a => exact ⟨a, rfl, h⟩

/-- What is written in the place of a user name or password may stand there. -/
theorem encode_user_allowed {cs : List Char} :
    ∀ c ∈ Percent.encode Percent.escapedInUser cs, Percent.escapedInUser c = false := fun _ =>
  Percent.encode_allowed (by decide) (by decide)

/-- The credentials that were read, of which the password is not empty. -/
theorem credentials_allowed (cs : List Char) :
    (∀ c ∈ (credentials cs).1, Percent.escapedInUser c = false) ∧
      ∀ p ∈ (credentials cs).2, p ≠ [] ∧ ∀ c ∈ p, Percent.escapedInUser c = false := by
  unfold credentials
  dsimp only
  split
  · refine ⟨encode_user_allowed, fun p hp => ?_⟩
    obtain rfl := Option.some.inj hp
    exact ⟨Percent.encode_ne_nil (List.cons_ne_nil _ _), encode_user_allowed⟩
  · exact ⟨encode_user_allowed, nofun⟩

/-- A port that was read has 16 bits. -/
theorem portOf_lt {cs : List Char} {port : Option Nat} (h : portOf cs = .ok port) :
    ∀ p ∈ port, p < UInt16.size := by
  unfold portOf at h
  split at h
  · obtain rfl := Except.ok.inj h
    nofun
  · split at h
    · split at h
      · obtain rfl := Except.ok.inj h
        intro p hp
        obtain rfl := Option.some.inj hp
        assumption
      · cases h
    · cases h

/-- The query and the fragment that were read. -/
theorem tail_allowed (cs : List Char) :
    (∀ q ∈ (tail cs).1, ∀ c ∈ q, Percent.escapedInQuery c = false) ∧
      ∀ f ∈ (tail cs).2, ∀ c ∈ f, Percent.escapedInFragment c = false := by
  have hfragment : ∀ f ∈ (tail cs).2, ∃ f', f = Percent.encode Percent.escapedInFragment f' := by
    intro f hf
    unfold tail at hf
    dsimp only at hf
    split at hf <;> split at hf
    all_goals first | exact ⟨_, (Option.some.inj hf).symm⟩ | cases hf
  constructor
  · intro q hq
    unfold tail at hq
    dsimp only at hq
    split at hq
    · obtain rfl := Option.some.inj hq
      exact fun _ => Percent.encode_allowed (by decide) (by decide)
    · cases hq
  · intro f hf
    obtain ⟨f', rfl⟩ := hfragment f hf
    exact fun _ => Percent.encode_allowed (by decide) (by decide)

/-- The host and the port that were read. -/
theorem hostAndPort_ok {cs : List Char} {r : Host × Option Nat}
    (h : hostAndPort Host.ofChars cs = .ok r) :
    (∃ name, Host.ofChars name = .ok r.1) ∧ ∀ p ∈ r.2, p < UInt16.size := by
  unfold hostAndPort at h
  obtain ⟨host, hhost, h⟩ := exists_of_bind_eq_ok h
  split at h
  · split at h
    · cases h
    · obtain ⟨port, hport, h⟩ := exists_of_bind_eq_ok h
      obtain rfl := Except.ok.inj h
      exact ⟨⟨_, hhost⟩, portOf_lt hport⟩
  · obtain rfl := Except.ok.inj h
    exact ⟨⟨_, hhost⟩, nofun⟩

/-- Every web address that was read is well-formed. -/
theorem webOf_wellFormed {scheme cs : List Char} {defaultPort : Nat} {u : Url}
    (h : webOf scheme defaultPort cs = .ok u) : u.WellFormed := by
  unfold webOf at h
  obtain ⟨a, ha, h⟩ := exists_of_bind_eq_ok h
  obtain rfl := Except.ok.inj h
  unfold webAuthority at ha
  dsimp only at ha
  split at ha
  · cases ha
  obtain ⟨-, -, ha⟩ := exists_of_bind_eq_ok ha
  obtain ⟨⟨host, port⟩, hhost, ha⟩ := exists_of_bind_eq_ok ha
  obtain rfl := Except.ok.inj ha
  obtain ⟨⟨name, hname⟩, hport⟩ := hostAndPort_ok hhost
  obtain ⟨hne, hall⟩ := Host.chars_of_ofChars hname
  exact {
    host_ne_nil := hne
    host := hall
    path_ne_nil := UrlPath.ofChars_ne_nil _
    path := fun _ => UrlPath.stands_of_mem_ofChars
    username := (credentials_allowed _).1
    password := (credentials_allowed _).2
    port := fun p hp => hport p (Option.mem_filter_iff.mp hp).1
    query := (tail_allowed _).1
    fragment := (tail_allowed _).2 }

/-- An address that was read is well-formed. -/
theorem ofText_wellFormed {text : String} {u : Url} (h : ofText text = .ok (some u)) :
    u.WellFormed := by
  unfold ofText at h
  split at h
  · cases h
  · split at h
    · rename_i scheme rest _ _ defaultPort _
      cases hweb : webOf scheme defaultPort rest with
      | error fault => rw [hweb] at h; cases h
      | ok v =>
        rw [hweb] at h
        obtain rfl := Option.some.inj (Except.ok.inj h)
        exact webOf_wellFormed hweb
    · rename_i rest _ _ _
      cases hfile : checkFile rest <;> rw [hfile] at h <;> cases h
    · rename_i rest _ _ _
      cases hother : checkOther rest <;> rw [hother] at h <;> cases h

/-- An address without its credentials is well-formed. -/
theorem WellFormed.withoutCredentials {u : Url} (h : u.WellFormed) :
    u.withoutCredentials.WellFormed :=
  { h with username := nofun, password := nofun }

/-- A request asks for visible characters of ASCII only. -/
theorem WellFormed.target_visible {u : Url} (h : u.WellFormed) :
    ∀ c ∈ u.target, 0x20 < c.toNat ∧ c.toNat < 0x7F := by
  intro c hc
  rcases List.mem_append.mp hc with hpath | hquery
  · obtain ⟨segment, hsegment, hc⟩ := List.mem_flatMap.mp hpath
    rcases List.mem_cons.mp hc with rfl | hc
    · decide
    · exact Percent.visible_of_allowed (by decide) ((h.path segment hsegment).allowed c hc)
  · split at hquery
    · rename_i q hq
      rcases List.mem_cons.mp hquery with rfl | hc
      · decide
      · exact Percent.visible_of_allowed (by decide) (h.query q hq c hc)
    · cases hquery

end Url
end OptimisticCache
