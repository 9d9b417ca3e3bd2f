import IamLogin.Proofs.Action
import IamLogin.Session

/-!
# How asking a service can go

Each service is asked in one of three ways: the request is never made, it is made in vain, or it is
answered as it should be; and the signer is not even turned to with claims that cannot be written. A
course says which of them was gone, with everything that was decided on the way, and so with the
result and the entries in the journal that belong to it. The courses of a session are put together
from those of the services it asks, one step after the other.

An action always follows a course. What is said about courses is said about the actions.
-/

namespace IamLogin

namespace Journal

/-- The requests of two stretches follow each other. -/
@[simp] theorem requestsTo_append (service : Service) (before after : Journal) :
    requestsTo service (before ++ after) = before.requestsTo service ++ after.requestsTo service :=
  List.filterMap_append

end Journal

namespace Signer

/-- The request by which members are to be signed. -/
def request (s : Signer) (resource : Text) (claims : Json.Members) (token : Option Text) :
    Except Failure Request := do
  let payload ← Claims.payload claims
  (s.posting resource payload token).request

/-- A request to have members signed carries them as they are written. -/
theorem request_eq_ok_iff {s : Signer} {resource : Text} {claims : Json.Members}
    {token : Option Text} {request : Request} :
    s.request resource claims token = .ok request ↔
      ∃ payload, Claims.payload claims = .ok payload ∧
        (s.posting resource payload token).request = .ok request := by
  unfold Signer.request
  cases Claims.payload claims with
  | error failure =>
    constructor
    · intro h
      cases h
    · rintro ⟨_, h, -⟩
      cases h
  | ok payload =>
    constructor
    · intro h
      exact ⟨payload, rfl, h⟩
    · rintro ⟨_, ⟨⟩, h⟩
      exact h

/-- The signature that comes of a request. -/
def outcome (s : Signer) (earlier : Nat) (request : Request) : Except Failure Signature := do
  Signature.ofResponse (← request.outcome s.endpoint earlier)

/-- How having members signed can go after the given number of earlier requests. -/
inductive Course (s : Signer) (project account : Text) (claims : Json.Members)
    (token : Option Text) (earlier : Nat) : Except Failure String → Journal → Prop
  /-- The members cannot be written. -/
  | unwritten {failure : Failure} :
    Claims.payload claims = .error failure →
    Course s project account claims token earlier (.error failure) []
  /-- No request is made. -/
  | unsent {payload : String} {failure : Failure} :
    Claims.payload claims = .ok payload →
    (s.posting (resource project account) payload token).request = .error failure →
    Course s project account claims token earlier
      (.error (explain (resource project account) failure)) []
  /-- A request is made, and no signature comes of it. -/
  | refused {request : Request} {failure : Failure} :
    s.request (resource project account) claims token = .ok request →
    s.outcome earlier request = .error failure →
    Course s project account claims token earlier
      (.error (explain (resource project account) failure)) [.request .iam request]
  /-- A request is made, and a signature comes of it. -/
  | signed {request : Request} {signature : Signature} :
    s.request (resource project account) claims token = .ok request →
    s.outcome earlier request = .ok signature →
    Course s project account claims token earlier (.ok signature.assertion)
      [.request .iam request, .event (.signed (resource project account) signature.keyId)]

/-- Having members signed follows a course. -/
theorem exists_course (s : Signer) (project account : Text) (claims : Json.Members)
    (token : Option Text) (journal : Journal) :
    ∃ result entries,
      (s.sign project account claims token).after journal = (result, journal ++ entries) ∧
      s.Course project account claims token (journal.requestsTo .iam).length result entries := by
  simp only [sign, Action.after_bind, Action.after_ofExcept, Action.after_tryCatch_throw,
    Posting.send_after]
  cases hpayload : Claims.payload claims with
  | error failure => exact ⟨_, [], by simp, .unwritten hpayload⟩
  | ok payload =>
    cases hposted : (s.posting (resource project account) payload token).request with
    | error failure => exact ⟨_, [], by simp [hposted], .unsent hpayload hposted⟩
    | ok request =>
      have hrequest := request_eq_ok_iff.mpr ⟨payload, hpayload, hposted⟩
      have houtcome : s.outcome (journal.requestsTo .iam).length request =
          request.outcome s.endpoint (journal.requestsTo .iam).length >>= Signature.ofResponse := rfl
      cases hanswer : request.outcome s.endpoint (journal.requestsTo .iam).length with
      | error failure =>
        rw [hanswer, except_error_bind] at houtcome
        exact ⟨_, _, by simp [hposted, hanswer], .refused hrequest houtcome⟩
      | ok answer =>
        rw [hanswer, except_ok_bind] at houtcome
        cases hsignature : Signature.ofResponse answer with
        | error failure =>
          rw [hsignature] at houtcome
          exact ⟨_, _, by simp [hposted, hanswer, hsignature], .refused hrequest houtcome⟩
        | ok signature =>
          rw [hsignature] at houtcome
          exact ⟨_, _, by simp [hposted, hanswer, hsignature], .signed hrequest houtcome⟩

end Signer

namespace Vault

/-- The grant that comes of a request. -/
def outcome (v : Vault) (method : Text) (earlier : Nat) (request : Request) :
    Except Failure Grant := do
  readAnswer method (← request.outcome v.endpoint earlier)

/-- How an exchange can go after the given number of earlier requests. -/
inductive Course (v : Vault) (method assertion mount role : Text) (earlier : Nat) :
    Except Failure Token → Journal → Prop
  /-- No request is made. -/
  | unsent {failure : Failure} :
    (v.posting assertion mount role).request = .error failure →
    Course v method assertion mount role earlier (.error (explain method failure)) []
  /-- A request is made, and no grant comes of it. -/
  | refused {request : Request} {failure : Failure} :
    (v.posting assertion mount role).request = .ok request →
    v.outcome method earlier request = .error failure →
    Course v method assertion mount role earlier (.error (explain method failure))
      [.request .vault request]
  /-- A request is made, and a grant comes of it. Its lease may still be no duration. -/
  | granted {request : Request} {grant : Grant} :
    (v.posting assertion mount role).request = .ok request →
    v.outcome method earlier request = .ok grant →
    Course v method assertion mount role earlier grant.token
      [.request .vault request, .event (.exchanged method mount)]

/-- An exchange follows a course. -/
theorem exists_course (v : Vault) (method assertion mount role : Text) (journal : Journal) :
    ∃ result entries,
      (v.exchange method assertion mount role).after journal = (result, journal ++ entries) ∧
      v.Course method assertion mount role (journal.requestsTo .vault).length result entries := by
  simp only [exchange, Action.after_bind, Action.after_tryCatch_throw, Posting.send_after]
  cases hrequest : (v.posting assertion mount role).request with
  | error failure => exact ⟨_, [], by simp, .unsent hrequest⟩
  | ok request =>
    have houtcome : v.outcome method (journal.requestsTo .vault).length request =
        request.outcome v.endpoint (journal.requestsTo .vault).length >>=
          readAnswer method := rfl
    cases hanswer : request.outcome v.endpoint (journal.requestsTo .vault).length with
    | error failure =>
      rw [hanswer, except_error_bind] at houtcome
      exact ⟨_, _, by simp [hanswer], .refused hrequest houtcome⟩
    | ok answer =>
      rw [hanswer, except_ok_bind] at houtcome
      cases hgrant : readAnswer method answer with
      | error failure =>
        rw [hgrant] at houtcome
        exact ⟨_, _, by simp [hanswer, hgrant], .refused hrequest houtcome⟩
      | ok grant =>
        rw [hgrant] at houtcome
        exact ⟨_, _, by simp [hanswer, hgrant], .granted hrequest houtcome⟩

end Vault

namespace Transport

/-- How an exchange by a transport can go after what is in a journal. -/
inductive Course : Transport → (method assertion mount role : Text) → Journal →
    Except Failure Token → Journal → Prop
  /-- The vault is asked. -/
  | vault {v : Vault} {method assertion mount role : Text} {before : Journal}
      {result : Except Failure Token} {entries : Journal} :
    v.Course method assertion mount role (before.requestsTo .vault).length result entries →
    Course (.vault v) method assertion mount role before result entries
  /-- The assertion is handed over. -/
  | custom {handover : Handover} {method assertion mount role : Text} {before : Journal} :
    Course (.custom handover) method assertion mount role before
      (handover (handovers before) method assertion mount role)
      [.handover method assertion mount role]

/-- An exchange by a transport follows a course. -/
theorem exists_course (t : Transport) (method assertion mount role : Text)
    (journal : Journal) :
    ∃ result entries,
      (t.exchange method assertion mount role).after journal = (result, journal ++ entries) ∧
      t.Course method assertion mount role journal result entries := by
  cases t with
  | vault v =>
    obtain ⟨result, entries, hafter, hcourse⟩ :=
      v.exists_course method assertion mount role journal
    exact ⟨result, entries, hafter, .vault hcourse⟩
  | custom handover => exact ⟨_, _, by simp [exchange, Action.after_bind], .custom⟩

end Transport

namespace Session

/-- What the clock shows after the given number of earlier readings. -/
def reading (s : Session) (earlier : Nat) : Except Failure Moment :=
  match s.options.clock with
  | .system => .ok (s.systemTime earlier)
  | .custom reading => reading earlier

/-- The claims of an account at a moment. -/
def claimsAt (s : Session) (account : Text) (now : Moment) : Claims :=
  Claims.make s.options.role s.options.validity account now

/-- How having a claim signed can go after what is in a journal: the ids, the clock and the signer
are asked one after the other, and the first that fails ends it. -/
inductive Signing (s : Session) (before : Journal) : Except Failure String → Journal → Prop
  /-- There is no project id. -/
  | noProject {failure : Failure} :
    s.options.projectId s.credential = .error failure →
    Signing s before (.error failure) []
  /-- There is no account id. -/
  | noAccount {project : Text} {failure : Failure} :
    s.options.projectId s.credential = .ok project →
    s.options.accountId s.credential = .error failure →
    Signing s before (.error failure) []
  /-- The clock fails. -/
  | noTime {project account : Text} {failure : Failure} :
    s.options.projectId s.credential = .ok project →
    s.options.accountId s.credential = .ok account →
    s.reading before.clockReads = .error failure →
    Signing s before (.error failure) [.clockRead]
  /-- The signer is asked. -/
  | asked {project account : Text} {now : Moment} {result : Except Failure String}
      {entries : Journal} :
    s.options.projectId s.credential = .ok project →
    s.options.accountId s.credential = .ok account →
    s.reading before.clockReads = .ok now →
    s.signer.Course project account (s.claimsAt account now).members
      (s.credential.bind Credential.token) (before.requestsTo .iam).length result entries →
    Signing s before result (.clockRead :: entries)

/-- Reading the clock leaves one entry, whatever comes of it. -/
theorem readClock_after (s : Session) (journal : Journal) :
    s.readClock.after journal = (s.reading journal.clockReads, journal ++ [.clockRead]) := by
  unfold readClock reading
  cases s.options.clock <;>
    simp only [Action.after_bind, Action.after_get, Action.after_record, Action.after_pure,
      Action.after_ofExcept]

/-- Having a claim signed goes one of these ways. -/
theorem exists_signing (s : Session) (journal : Journal) :
    ∃ result entries,
      s.signedClaim.after journal = (result, journal ++ entries) ∧
      s.Signing journal result entries := by
  simp only [signedClaim, Action.after_bind, Action.after_ofExcept, readClock_after]
  cases hproject : s.options.projectId s.credential with
  | error failure => exact ⟨_, [], by simp, .noProject hproject⟩
  | ok project =>
    cases haccount : s.options.accountId s.credential with
    | error failure => exact ⟨_, [], by simp, .noAccount hproject haccount⟩
    | ok account =>
      cases hnow : s.reading journal.clockReads with
      | error failure => exact ⟨_, [.clockRead], by simp [hnow], .noTime hproject haccount hnow⟩
      | ok now =>
        obtain ⟨result, entries, hafter, hcourse⟩ :=
          s.signer.exists_course project account (s.claimsAt account now).members
            (s.credential.bind Credential.token) (journal ++ [.clockRead])
        have hsent : Journal.requestsTo .iam (journal ++ [.clockRead]) =
            journal.requestsTo .iam := by simp [Journal.requestsTo]
        rw [hsent] at hcourse
        refine ⟨result, .clockRead :: entries, ?_, .asked hproject haccount hnow hcourse⟩
        simpa [hnow, claimsAt] using hafter

/-- How the steps of a login can go after what is in a journal: the transport is asked with the
assertion that the signer gave, or not at all. -/
inductive Steps (s : Session) (before : Journal) : Except Failure Token → Journal → Prop
  /-- There is no assertion. -/
  | unsigned {failure : Failure} {entries : Journal} :
    s.Signing before (.error failure) entries →
    Steps s before (.error failure) entries
  /-- The assertion is exchanged. -/
  | exchanged {assertion : String} {signing : Journal} {result : Except Failure Token}
      {exchange : Journal} :
    s.Signing before (.ok assertion) signing →
    s.transport.Course methodName assertion s.options.mountPath s.options.role
      (before ++ signing) result exchange →
    Steps s before result (signing ++ exchange)

/-- The event that ends a login with a result. -/
def lastEvent (o : Options) : Except Failure Token → Event
  | .ok _ => .succeeded o.mountPath o.role
  | .error failure => failureEvent o failure

/-- The steps of a login, up to the first that fails. -/
def attempt (s : Session) : Action Token := do
  let assertion ← s.signedClaim
  s.transport.exchange methodName assertion s.options.mountPath s.options.role

/-- A login goes its steps, reports how they ended, and gives their token or explains their
failure. -/
theorem login_after (s : Session) (journal : Journal) :
    s.login.after journal = ((s.attempt.after journal).1.mapError explain,
      (s.attempt.after journal).2 ++ [.event (lastEvent s.options (s.attempt.after journal).1)]) := by
  have hlogin : s.login = do
      let token ← tryCatch s.attempt fun failure => do
        Action.report (failureEvent s.options failure)
        throw (explain failure)
      Action.report (.succeeded s.options.mountPath s.options.role)
      return token := rfl
  simp only [hlogin, Action.after_bind, Action.after_tryCatch, Action.after_report,
    Action.after_throw]
  rcases s.attempt.after journal with ⟨result, later⟩
  cases result <;> simp [lastEvent]

/-- The steps of a login go one of these ways. -/
theorem exists_attempt (s : Session) (journal : Journal) :
    ∃ result entries,
      s.attempt.after journal = (result, journal ++ entries) ∧ s.Steps journal result entries := by
  obtain ⟨signed, signing, hafter, hsigning⟩ := s.exists_signing journal
  rw [attempt, Action.after_bind, hafter]
  cases signed with
  | error failure => exact ⟨.error failure, signing, rfl, .unsigned hsigning⟩
  | ok assertion =>
    obtain ⟨result, exchange, hexchange, hcourse⟩ :=
      s.transport.exists_course methodName assertion s.options.mountPath s.options.role
        (journal ++ signing)
    exact ⟨result, signing ++ exchange, by simp [hexchange], .exchanged hsigning hcourse⟩

end Session

end IamLogin
