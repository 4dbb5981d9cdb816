import OptimisticCache.Backend.Envelope
import OptimisticCache.Backend.Failure
import OptimisticCache.Http.Message
import OptimisticCache.Json.Printer
import OptimisticCache.Text.Base64
/-!
# Endpoints

An endpoint is where a backend is reached over HTTP.  It makes the request for a
call, and it interprets the response: the body of a success is an envelope, and
the body of any other response holds the reason of the failure.

Main results:

- Theorem {lit}`Endpoint.request_sendable`: a request shows no credentials in its
  address and no controls in its headers.
- Theorem {lit}`Endpoint.exists_status_iff`: a failure has a status exactly if the
  response has one that is no success.
-/

namespace OptimisticCache

/-- Where a backend is reached. -/
structure Endpoint where
  /-- The base URL without slashes at its end. -/
  baseUrl : String
  authToken : Option String
  userAgent : String
deriving DecidableEq

namespace Endpoint

/-- The URL of a path. -/
def join (e : Endpoint) (path : String) : String :=
  if path.toList.head? = some '/' then e.baseUrl ++ path else e.baseUrl ++ "/" ++ path

/-- The URL that a call goes to. -/
def callUrl (e : Endpoint) : Call → String
  | .send request => e.join request.path
  | .read path => e.join path

/-- The credentials of a URL as the value of a header; escapes in them stand for bytes. -/
def basicCredentials? (u : Url) : Option String := do
  let name ← Percent.decodeText? u.username
  let password := u.password.bind Percent.decodeText?
  if name.isEmpty ∧ password.isNone then none
  else
    let bytes := (name ++ ':' :: password.getD []).flatMap String.utf8EncodeChar
    some ("Basic " ++ String.ofList (Base64.encode bytes))

/-- What proves to the backend who asks: the token, or else the credentials of the URL. -/
def authorization? (e : Endpoint) (u : Url) : Option String :=
  match e.authToken with
  | some token => some ("Bearer " ++ token)
  | none => basicCredentials? u

/-- A request that cannot be made. -/
def unmade (reason : String) : BackendFailure :=
  .network ("builder error: " ++ reason)

/-- The request for a call. -/
def request (e : Endpoint) (call : Call) : Except BackendFailure HttpRequest :=
  match Url.ofText (e.callUrl call) with
  | .error fault => .error (unmade fault.message)
  | .ok none => .error (unmade "URL scheme is not allowed")
  | .ok (some u) =>
    let authorization := e.authorization? u
    if authorization.all HttpRequest.isHeaderText then
      let (method, payload) := match call with
        | .send r => (r.method, r.payload.map Json.print)
        | .read _ => (Method.get, none)
      .ok ⟨method, u.withoutCredentials, authorization, e.userAgent, payload⟩
    else .error (unmade "failed to parse header value")

/-- What a response to a call says. -/
def answer (e : Endpoint) (call : Call) (r : HttpResponse) : Except BackendFailure Envelope :=
  let body := r.text
  if r.status.isSuccess then
    if Text.isAllBlank body then .ok (.ok .null)
    else
      match Json.parse? body with
      | some v => .ok (.ofBody v)
      | none => .error (.decode (r.status.text ++ " " ++ e.callUrl call))
  else
    .error (.ofStatus r.status.code
      (Envelope.errorReason body (r.status.phrase?.getD "request failed")))

/-- A request that was made can be sent: it goes to a well-formed address that shows no
credentials, and there is no control in its headers. -/
theorem request_sendable {e : Endpoint} {call : Call} {r : HttpRequest}
    (hagent : HttpRequest.isHeaderText e.userAgent = true) (h : e.request call = .ok r) :
    r.url.WellFormed ∧ r.url.credentialChars = [] ∧
      ∀ header ∈ r.headers, HttpRequest.isHeaderText header.2 = true := by
  unfold request at h
  split at h
  · cases h
  · cases h
  · rename_i u hu
    dsimp only at h
    split at h
    · rename_i hauthorization
      have hwell := (Url.ofText_wellFormed hu).withoutCredentials
      obtain rfl := Except.ok.inj h
      exact ⟨hwell, rfl, fun _ =>
        HttpRequest.isHeaderText_of_mem_headers hwell hagent hauthorization⟩
    · cases h

/-- A response is a failure with a status exactly if its own status is no success. -/
theorem exists_status_iff {e : Endpoint} {call : Call} {r : HttpResponse} {code : Nat} :
    (∃ failure, e.answer call r = .error failure ∧ failure.status? = some code) ↔
      r.status.isSuccess = false ∧ r.status.code = code := by
  have hrefused : r.status.isSuccess = false → ∃ failure, e.answer call r = .error failure ∧
      failure.status? = some r.status.code := fun hs => by
    refine ⟨_, ?_, BackendFailure.status?_ofStatus r.status.code
      (Envelope.errorReason r.text (r.status.phrase?.getD "request failed"))⟩
    simp [answer, hs]
  constructor
  · rintro ⟨failure, hfailure, hcode⟩
    cases hs : r.status.isSuccess with
    | false =>
      obtain ⟨failure', hfailure', hstatus⟩ := hrefused hs
      obtain rfl := Except.error.inj (hfailure'.symm.trans hfailure)
      exact ⟨rfl, Option.some.inj (hstatus.symm.trans hcode)⟩
    | true =>
      unfold answer at hfailure
      rw [if_pos hs] at hfailure
      split at hfailure
      · cases hfailure
      · split at hfailure
        · cases hfailure
        · obtain rfl := Except.error.inj hfailure
          cases hcode
  · rintro ⟨hs, rfl⟩
    exact hrefused hs

end Endpoint
end OptimisticCache
