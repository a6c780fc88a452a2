import AiEnterpriseOs.Api.HostAllowlist
import AiEnterpriseOs.Api.WriteToken
import AiEnterpriseOs.Events.Models

/-!
# The write guard

A write request passes the guard, or is rejected and leaves an audit event. Two
comparisons of texts decide, and each raises on a text that is not ASCII.
-/

namespace AiEnterpriseOs.Api

open Events
open Library

structure CsrfService where
  token : List Char

def CsrfService.verify (service : CsrfService) (value : Option (List Char)) :
    Except String Bool :=
  match value with
  | none | some [] => .ok false
  | some value => compareDigest value service.token

namespace WriteTokenService

/-- The token that a presented one is compared with. -/
def expected (service : WriteTokenService) : Option (List Char) :=
  service.envToken.or service.stored

/-- What is compared with it. -/
def candidate (sha256 : List Char → HexDigest) (service : WriteTokenService)
    (token : List Char) : List Char :=
  if service.envToken.isNone && service.hashAtRest then (sha256 token).text else token

end WriteTokenService

/-- An event of the guard with its payload. -/
structure RejectedWrite where
  eventType : EventType
  action : String
  reason : String
  actor : String
  detail : Option String

/-- Which events `publish` takes without raising, and whether the fail-open file
can be written. -/
structure AuditBus where
  accepts : RejectedWrite → Bool
  appendable : Bool

/-- The events given to `publish`, and those in the fail-open file. -/
structure AuditTrail where
  published : List RejectedWrite := []
  failed : List RejectedWrite := []

def failOpen (bus : AuditBus) (event : RejectedWrite) (trail : AuditTrail) : AuditTrail :=
  let trail := { trail with published := trail.published ++ [event] }
  if bus.accepts event then trail
  else if bus.appendable then { trail with failed := trail.failed ++ [event] }
  else trail

def publishWriteRejected (bus : AuditBus) (action reason : String) (detail : Option String)
    (trail : AuditTrail) : AuditTrail :=
  failOpen bus
    { eventType := .auditWriteRejected
      action := action
      reason := reason
      actor := "dashboard"
      detail := detail } trail

/-- The headers that the guard reads. -/
structure WriteRequest where
  host : Option (List Char)
  authorization : Option (List Char)
  csrfToken : Option (List Char)

inductive GuardError where
  | httpException (statusCode : Nat) (detail : String)
  | typeError (message : String)

structure WriteGuard where
  tokens : WriteTokenService
  csrf : CsrfService
  bus : Option AuditBus
  requireLoopbackToken : Bool

namespace WriteGuard

def reject (guard : WriteGuard) (action reason : String) (detail : Option String)
    (trail : AuditTrail) : AuditTrail :=
  match guard.bus with
  | none => trail
  | some bus => publishWriteRejected bus action reason detail trail

/-- The second stage of `guard`. -/
def requireCsrf (guard : WriteGuard) (action : String) (request : WriteRequest)
    (trail : AuditTrail) : Except GuardError Unit × AuditTrail :=
  match guard.csrf.verify request.csrfToken with
  | .error message => (.error (.typeError message), trail)
  | .ok true => (.ok (), trail)
  | .ok false =>
    (.error (.httpException 403 "invalid CSRF token"),
      guard.reject action "csrf_mismatch" (some "missing or invalid CSRF token") trail)

section

variable (lower : List Char → List Char) (sha256 : List Char → HexDigest)

def tokenRequired (guard : WriteGuard) (request : WriteRequest) : Bool :=
  let loopback := hostAllowed lower (request.host.getD [])
  !loopback || guard.requireLoopbackToken

/-- The text after `bearer `, in any case. -/
def presentedToken (request : WriteRequest) : Option (List Char) :=
  let authHeader := request.authorization.getD []
  if "bearer ".toList.isPrefixOf (lower authHeader) then
    some (TextLines.strip (authHeader.drop 7))
  else none

def guard (guard : WriteGuard) (action : String) (request : WriteRequest) (trail : AuditTrail) :
    Except GuardError Unit × AuditTrail :=
  match presentedToken lower request with
  | some token =>
    match guard.tokens.verify sha256 (some token) with
    | .error message => (.error (.typeError message), trail)
    | .ok true => guard.requireCsrf action request trail
    | .ok false =>
      (.error (.httpException 401 "invalid write token"),
        guard.reject action "unauthorized" (some "invalid token") trail)
  | none =>
    if guard.tokenRequired lower request then
      (.error (.httpException 401 "write token required"),
        guard.reject action "unauthorized" (some "missing token") trail)
    else guard.requireCsrf action request trail

/-- What the guard owes a request, whatever was published before. -/
def Decides (guard : WriteGuard) (action : String) (request : WriteRequest)
    (trail : AuditTrail) : Prop :=
  match guard.guard lower sha256 action request trail with
  | (.ok (), after) =>
    after.published = trail.published ∧ request.csrfToken = some guard.csrf.token ∧
      ((presentedToken lower request).isSome = true ∨ guard.tokenRequired lower request = true →
        ∃ token, presentedToken lower request = some token ∧
          guard.tokens.verify sha256 (some token) = .ok true)
  | (.error (.httpException statusCode _), after) =>
    (statusCode = 401 ∨ statusCode = 403) ∧ ∃ event, event.eventType = .auditWriteRejected ∧
        after.published = trail.published ++ [event]
  | (.error (.typeError _), _) => False

/-- The token stage lets the request on to the second stage. -/
def TokenAccepted (guard : WriteGuard) (request : WriteRequest) : Prop :=
  match presentedToken lower request with
  | some token => guard.tokens.verify sha256 (some token) = .ok true
  | none => guard.tokenRequired lower request = false

/-- Only ASCII texts are compared, and there is a bus for a rejection. -/
structure Comparable (guard : WriteGuard) (request : WriteRequest) : Prop where
  token : ∀ token expected, presentedToken lower request = some token → token ≠ [] →
    guard.tokens.expected = some expected →
      (guard.tokens.candidate sha256 token).all isAscii = true ∧ expected.all isAscii = true
  csrf : guard.TokenAccepted lower sha256 request →
    ∀ value, request.csrfToken = some value → value ≠ [] →
      value.all isAscii = true ∧ guard.csrf.token.all isAscii = true
  audited : guard.bus.isSome = true ∨ guard.TokenAccepted lower sha256 request ∧
      guard.csrf.verify request.csrfToken = .ok true

end

end WriteGuard

theorem compare_digest_is_ok (first second : List Char) :
    (compareDigest first second).isOk = (first.all isAscii && second.all isAscii) := by
  unfold compareDigest
  split
  · next ascii =>
      rw [ascii]
      rfl
  · next other =>
      rw [eq_false_of_ne_true other]
      rfl

theorem WriteTokenService.verify_is_ok_iff (sha256 : List Char → HexDigest)
    (service : WriteTokenService) (token : List Char) :
    (service.verify sha256 (some token)).isOk = true ↔
      ∀ expected, token ≠ [] → service.expected = some expected →
        (service.candidate sha256 token).all isAscii = true ∧ expected.all isAscii = true := by
  unfold verify expected candidate
  cases token with
  | nil => simp [Except.isOk, Except.toBool]
  | cons char rest =>
    cases service.envToken with
    | some expected => simp [compare_digest_is_ok]
    | none =>
      cases service.stored with
      | none => simp [Except.isOk, Except.toBool]
      | some expected => cases service.hashAtRest <;> simp [compare_digest_is_ok]

theorem CsrfService.verify_is_ok_iff (service : CsrfService) (value : Option (List Char)) :
    (service.verify value).isOk = true ↔ ∀ text, value = some text → text ≠ [] →
        text.all isAscii = true ∧ service.token.all isAscii = true := by
  unfold verify
  cases value with
  | none => simp [Except.isOk, Except.toBool]
  | some text =>
    cases text with
    | nil => simp [Except.isOk, Except.toBool]
    | cons char rest => simp [compare_digest_is_ok]

theorem CsrfService.verify_true {service : CsrfService} {value : Option (List Char)}
    (valid : service.verify value = .ok true) : value = some service.token := by
  unfold verify at valid
  split at valid
  · cases valid
  · cases valid
  · next text _ =>
      rw [((compare_digest_true_iff text service.token).mp valid).1]

namespace WriteGuard

@[simp] theorem fail_open_published (bus : AuditBus) (event : RejectedWrite) (trail : AuditTrail) :
    (failOpen bus event trail).published = trail.published ++ [event] := by
  simp only [failOpen]
  split
  · rfl
  · split <;> rfl

theorem reject_published_iff (guard : WriteGuard) (action reason : String)
    (detail : Option String) (trail : AuditTrail) :
    (∃ event, event.eventType = .auditWriteRejected ∧
        (guard.reject action reason detail trail).published = trail.published ++ [event]) ↔
      guard.bus.isSome = true := by
  unfold reject
  cases guard.bus with
  | none => simp
  | some bus =>
    refine iff_of_true ⟨_, ?_, fail_open_published bus _ trail⟩ rfl
    rfl

section

variable {lower : List Char → List Char} {sha256 : List Char → HexDigest}

theorem comparable_iff (guard : WriteGuard) (request : WriteRequest) :
    Comparable lower sha256 guard request ↔ (∀ token, presentedToken lower request = some token →
        (guard.tokens.verify sha256 (some token)).isOk = true) ∧
      (guard.TokenAccepted lower sha256 request →
        (guard.csrf.verify request.csrfToken).isOk = true) ∧
      (guard.bus.isSome = true ∨ guard.TokenAccepted lower sha256 request ∧
          guard.csrf.verify request.csrfToken = .ok true) := by
  simp only [WriteTokenService.verify_is_ok_iff, CsrfService.verify_is_ok_iff]
  constructor
  · intro comparable
    refine ⟨?_, comparable.csrf, comparable.audited⟩
    intro token presented expected
    exact comparable.token token expected presented
  · rintro ⟨token, csrf, audited⟩
    exact ⟨fun text expected presented => token text presented expected, csrf, audited⟩

theorem accepted_decides_iff {guard : WriteGuard} {request : WriteRequest}
    (accepted : guard.TokenAccepted lower sha256 request) (action : String)
    (trail : AuditTrail)
    (reached : guard.guard lower sha256 action request trail =
      guard.requireCsrf action request trail) :
    Decides lower sha256 guard action request trail ↔
      (guard.csrf.verify request.csrfToken).isOk = true ∧
        (guard.bus.isSome = true ∨ guard.csrf.verify request.csrfToken = .ok true) := by
  have verified : (presentedToken lower request).isSome = true ∨
      guard.tokenRequired lower request = true →
        ∃ token, presentedToken lower request = some token ∧
          guard.tokens.verify sha256 (some token) = .ok true := by
    intro demanded
    unfold TokenAccepted at accepted
    cases header : presentedToken lower request with
    | none =>
      rw [header] at accepted demanded
      rw [accepted] at demanded
      simp at demanded
    | some token =>
      rw [header] at accepted
      exact ⟨token, rfl, accepted⟩
  rw [Decides, reached, requireCsrf]
  cases checked : guard.csrf.verify request.csrfToken with
  | error message => simp [Except.isOk, Except.toBool]
  | ok valid =>
    cases valid with
    | false => simp [Except.isOk, Except.toBool, reject_published_iff]
    | true =>
      have value := CsrfService.verify_true checked
      exact iff_of_true ⟨rfl, value, verified⟩ ⟨rfl, .inr rfl⟩

/-- The guard decides a request exactly when no text but ASCII reaches a
comparison and a rejection has a bus. -/
theorem guard_decides_iff (guard : WriteGuard) (action : String) (request : WriteRequest)
    (trail : AuditTrail) :
    Decides lower sha256 guard action request trail ↔
      Comparable lower sha256 guard request := by
  rw [comparable_iff]
  cases header : presentedToken lower request with
  | none =>
    cases required : guard.tokenRequired lower request with
    | true =>
      have refused : ¬ guard.TokenAccepted lower sha256 request := by
        simp [TokenAccepted, header, required]
      simp [Decides, WriteGuard.guard, header, required, refused, reject_published_iff]
    | false =>
      have accepted : guard.TokenAccepted lower sha256 request := by
        simp [TokenAccepted, header, required]
      rw [accepted_decides_iff accepted action trail (by simp [WriteGuard.guard, header, required])]
      simp [accepted]
  | some token =>
    cases checked : guard.tokens.verify sha256 (some token) with
    | error message =>
      simp [Decides, WriteGuard.guard, header, checked, Except.isOk, Except.toBool]
    | ok valid =>
      cases valid with
      | false =>
        have refused : ¬ guard.TokenAccepted lower sha256 request := by
          simp [TokenAccepted, header, checked]
        simp [Decides, WriteGuard.guard, header, checked, refused, reject_published_iff,
          Except.isOk, Except.toBool]
      | true =>
        have accepted : guard.TokenAccepted lower sha256 request := by
          simp [TokenAccepted, header, checked]
        rw [accepted_decides_iff accepted action trail
          (by simp [WriteGuard.guard, header, checked])]
        simp [accepted, checked, Except.isOk, Except.toBool]

end

/-- A CSRF value with an accent ends the request with another exception. -/
theorem accented_csrf_escapes :
    let lower : List Char → List Char := fun text => text.map Char.toLower
    let sha256 : List Char → HexDigest := fun _ =>
      { text := List.replicate 64 '0', size := by decide, hex := by decide }
    let guard : WriteGuard :=
      { tokens := WriteTokenService.load false none none 0
        csrf := { token := "csrf".toList }
        bus := some { accepts := fun _ => true, appendable := true }
        requireLoopbackToken := false }
    let request : WriteRequest :=
      { host := some "localhost:8000".toList
        authorization := none
        csrfToken := some "é".toList }
    guard.guard lower sha256 "runtime.start" request {} =
        (.error (.typeError "comparing strings with non-ASCII characters is not supported"), {}) ∧
      ¬ Decides lower sha256 guard "runtime.start" request {} := by
  intro lower sha256 guard request
  have outcome : guard.guard lower sha256 "runtime.start" request {} =
      (.error (.typeError "comparing strings with non-ASCII characters is not supported"), {}) := by
    rfl
  refine ⟨outcome, ?_⟩
  rw [Decides, outcome]
  exact id

end WriteGuard

end AiEnterpriseOs.Api
