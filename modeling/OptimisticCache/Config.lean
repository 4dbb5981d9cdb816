import OptimisticCache.Client
import OptimisticCache.Endpoint
/-!
# Configuration of a client

Where the backend is, with which token it is asked, how long a request may take
and from which age on cached queries are stale.  A configuration may be read from
a URL that carries the token as its credentials.

Main results:

- Theorem {lit}`Config.validate_eq_ok_iff`: which configurations can be used.
- Theorem {lit}`Config.exists_connect_of_ofUrl`: a configuration that was read from a
  URL can be used.
- Theorem {lit}`Config.request_sendable_of_connect`: a connected client makes only
  requests that can be sent.
-/

namespace OptimisticCache

/-- The configuration of a client. -/
structure Config where
  /-- The URL that the paths of all requests are appended to. -/
  baseUrl : String
  /-- The token that is sent with every request. -/
  authToken : Option String := none
  /-- How long a request may take, in milliseconds. -/
  timeout : Nat := 30000
  /-- The age in milliseconds from which a cached query counts as stale. -/
  staleTime : Option Nat := none
  userAgent : String := "querysync/0.1.0"
deriving DecidableEq

namespace Config

/-- The configuration of a backend on the same machine. -/
def standard : Config :=
  { baseUrl := "http://localhost:8080/api" }

/-- A text without the slashes at its end. -/
def dropSlashes (cs : List Char) : List Char :=
  (cs.reverse.dropWhile (· = '/')).reverse

/-- The token in the credentials of a URL: the password if there is one, or else the user
name. -/
def tokenOf (u : Url) : Option String :=
  match u.username, u.password with
  | _, some password => some (String.ofList password)
  | [], none => none
  | name, none => some (String.ofList name)

/-- The configuration of a web address. -/
def ofAddress (u : Url) : Config where
  baseUrl := String.ofList (dropSlashes u.withoutCredentials.chars)
  authToken := tokenOf u

/-- Read a configuration from a URL. -/
def ofUrl (text : String) : Except ConfigFault Config :=
  match Url.ofText text with
  | .error fault => .error (.invalidUrl text fault)
  | .ok (some u) =>
    if u.scheme = "http".toList ∨ u.scheme = "https".toList then .ok (ofAddress u)
    else .error .unsupportedScheme
  | .ok none => .error .unsupportedScheme

/-- What stands before the first separator of a scheme, and what stands behind it. -/
def splitScheme : List Char → Option (List Char × List Char)
  | ':' :: '/' :: '/' :: rest => some ([], rest)
  | c :: rest => (splitScheme rest).map fun r => (c :: r.1, r.2)
  | [] => none

/-- The URL of a configuration, with the token masked. -/
def toUrl (c : Config) : String :=
  match c.authToken, splitScheme c.baseUrl.toList with
  | some _, some (scheme, rest) => String.ofList (scheme ++ "://***@".toList ++ rest)
  | _, _ => c.baseUrl

/-- Whether a text begins with the scheme of a web address. -/
def hasWebScheme (text : String) : Bool :=
  "http://".toList.isPrefixOf text.toList || "https://".toList.isPrefixOf text.toList

/-- Check a configuration. -/
def validate (c : Config) : Except ConfigFault Unit :=
  if hasWebScheme c.baseUrl then
    if c.timeout = 0 then .error .zeroTimeout
    else if c.authToken = some "" then .error .emptyToken
    else .ok ()
  else .error (.unsupportedBaseUrl c.baseUrl)

/-- What the client needs to know about its backend, if the configuration can be used. -/
def endpoint (c : Config) : Except ConfigFault Endpoint :=
  match c.validate with
  | .error fault => .error fault
  | .ok () =>
    if HttpRequest.isHeaderText c.userAgent then
      .ok ⟨String.ofList (dropSlashes c.baseUrl.toList), c.authToken, c.userAgent⟩
    else .error .invalidUserAgent

/-- A client with an empty store, and the backend that it is to use. -/
def connect (c : Config) : Except ConfigFault (Client × Endpoint) :=
  c.endpoint.map fun e => ({ store := Store.empty c.staleTime }, e)

/-- A configuration can be used if it has a web address, time for a request, and no empty
token. -/
theorem validate_eq_ok_iff {c : Config} :
    c.validate = .ok () ↔ hasWebScheme c.baseUrl = true ∧ c.timeout ≠ 0 ∧ c.authToken ≠ some "" := by
  unfold validate
  split
  · split
    · simp_all
    · split <;> simp_all
  · simp_all

/-- Slashes are dropped only behind the last character that is none. -/
theorem dropSlashes_append {c : Char} (h : c ≠ '/') (front rest : List Char) :
    dropSlashes (front ++ c :: rest) = front ++ c :: dropSlashes rest := by
  have hdrop : ∀ xs ys : List Char, (xs ++ c :: ys).dropWhile (· = '/') =
      xs.dropWhile (· = '/') ++ c :: ys := by
    intro xs ys
    induction xs with
    | nil => simp [h]
    | cons x xs ih =>
      by_cases hx : x = '/'
      · simpa [hx] using ih
      · simp [hx]
  simp [dropSlashes, hdrop]

/-- The token of an address that was read is not empty. -/
theorem tokenOf_ne_empty {u : Url} (h : u.WellFormed) : tokenOf u ≠ some "" := by
  unfold tokenOf
  split
  · rename_i password hpassword
    intro heq
    have hnil : password = [] := by simpa using Option.some.inj heq
    exact (h.password password hpassword).1 hnil
  · nofun
  · rename_i name hname hne
    intro heq
    have hnil : u.username = [] := by simpa using Option.some.inj heq
    exact hne hnil

/-- The address of a backend keeps its scheme, since its host is not dropped as slashes are. -/
theorem hasWebScheme_ofAddress {u : Url} (h : u.WellFormed)
    (hscheme : u.scheme = "http".toList ∨ u.scheme = "https".toList) :
    hasWebScheme (ofAddress u).baseUrl = true := by
  cases hhost : u.host.chars with
  | nil => exact absurd hhost h.host_ne_nil
  | cons c cs =>
    have hc : c ≠ '/' := by
      rintro rfl
      exact absurd (h.host '/' (by simp [hhost])) (by decide)
    obtain ⟨rest, hchars⟩ :
        ∃ rest, u.withoutCredentials.chars = u.scheme ++ "://".toList ++ c :: rest := by
      simp only [Url.chars, Url.withoutCredentials, Url.credentialChars, hhost, List.append_assoc,
        List.cons_append, List.nil_append]
      exact ⟨_, rfl⟩
    rw [hasWebScheme, ofAddress, String.toList_ofList, hchars, dropSlashes_append hc]
    obtain hscheme | hscheme := hscheme <;> rw [hscheme] <;> simp [List.isPrefixOf]

/-- A configuration that was read is that of a web address. -/
theorem exists_of_ofUrl {text : String} {c : Config} (h : ofUrl text = .ok c) :
    ∃ u, Url.ofText text = .ok (some u) ∧
      (u.scheme = "http".toList ∨ u.scheme = "https".toList) ∧ c = ofAddress u := by
  unfold ofUrl at h
  split at h
  · cases h
  · rename_i u hu
    split at h
    · rename_i hscheme
      exact ⟨u, hu, hscheme, (Except.ok.inj h).symm⟩
    · cases h
  · cases h

/-- A configuration that was read from a URL is valid. -/
theorem validate_of_ofUrl {text : String} {c : Config} (h : ofUrl text = .ok c) :
    c.validate = .ok () := by
  obtain ⟨u, hu, hscheme, rfl⟩ := exists_of_ofUrl h
  have hwell := Url.ofText_wellFormed hu
  exact validate_eq_ok_iff.mpr
    ⟨hasWebScheme_ofAddress hwell hscheme, Nat.noConfusion, tokenOf_ne_empty hwell⟩

/-- What is known of a backend, if the configuration can be used. -/
theorem endpoint_eq_ok_iff {c : Config} {e : Endpoint} :
    c.endpoint = .ok e ↔
      c.validate = .ok () ∧ HttpRequest.isHeaderText c.userAgent = true ∧
        e = ⟨String.ofList (dropSlashes c.baseUrl.toList), c.authToken, c.userAgent⟩ := by
  unfold endpoint
  split
  · simp [*]
  · split <;> simp [*, eq_comm]

/-- A client connects to the backend of every URL that a configuration can be read from. -/
theorem exists_connect_of_ofUrl {text : String} {c : Config} (h : ofUrl text = .ok c) :
    ∃ client e, c.connect = .ok (client, e) := by
  have hagent : HttpRequest.isHeaderText c.userAgent = true := by
    obtain ⟨u, -, -, rfl⟩ := exists_of_ofUrl h
    show HttpRequest.isHeaderText "querysync/0.1.0" = true
    decide
  have hendpoint := endpoint_eq_ok_iff.mpr ⟨validate_of_ofUrl h, hagent, rfl⟩
  exact ⟨_, _, by rw [connect, hendpoint]; rfl⟩

/-- A connected client makes only requests that can be sent. -/
theorem request_sendable_of_connect {c : Config} {client : Client} {e : Endpoint} {call : Call}
    {r : HttpRequest} (h : c.connect = .ok (client, e)) (hr : e.request call = .ok r) :
    r.url.WellFormed ∧ r.url.credentialChars = [] ∧
      ∀ header ∈ r.headers, HttpRequest.isHeaderText header.2 = true := by
  unfold connect at h
  cases hendpoint : c.endpoint with
  | error fault => rw [hendpoint] at h; cases h
  | ok e' =>
    rw [hendpoint] at h
    obtain rfl := (Prod.mk.inj (Except.ok.inj h)).2
    obtain ⟨-, hagent, rfl⟩ := endpoint_eq_ok_iff.mp hendpoint
    exact Endpoint.request_sendable hagent hr

end Config
end OptimisticCache
