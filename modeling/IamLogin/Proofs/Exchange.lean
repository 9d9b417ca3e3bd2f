import IamLogin.Proofs.Foreseen
import IamLogin.Proofs.Json.Nesting
import IamLogin.Proofs.Secrets
import IamLogin.Proofs.Trail

/-!
# How an exchange ends

An exchange should end in one of two ways: with a token and a report of it, or with a failure to log in
and no report. It does so unless it fails in a way that nobody foresaw. Beside the ways that every client
has, the vault has one of its own: the lease is made a duration after the exchange was reported, and a
lease can be longer than any duration.

Nor does it take a success to get a token. An answer is refused for its status if this is an error, and
between the successes and the errors, before and behind them there are more, whose bodies are read all the
same.
-/

namespace IamLogin

/-- Whether seconds are no more than a duration can have, on either side of zero. -/
def Duration.InReach (seconds : Int) : Prop :=
  -(dayLimit * secondsPerDay) ≤ seconds ∧ seconds < (dayLimit + 1) * secondsPerDay

/-- Seconds make a duration exactly if they are in reach. -/
theorem Duration.exists_ofSeconds_iff {seconds : Int} :
    (∃ duration, ofSeconds seconds = .ok duration) ↔ InReach seconds := by
  have hdays : seconds.fdiv secondsPerDay = seconds / 86400 :=
    Int.fdiv_eq_ediv_of_nonneg seconds (by decide)
  have hleast : -(dayLimit * secondsPerDay) = -86399999913600 := by decide
  have hlimit : (dayLimit + 1) * secondsPerDay = 86400000000000 := by decide
  have hmax : dayLimit = 999999999 := rfl
  unfold InReach ofSeconds
  dsimp only
  rw [hdays, hleast, hlimit, hmax]
  split
  · simp only [reduceCtorEq, exists_false, false_iff]
    omega
  · split
    · simp only [reduceCtorEq, exists_false, false_iff]
      omega
    · simp only [Except.ok.injEq, exists_eq', true_iff]
      omega

/-- A grant gives a token exactly if its lease is in reach. -/
theorem Grant.exists_token_iff {grant : Grant} :
    (∃ token, grant.token = .ok token) ↔ Duration.InReach grant.leaseSeconds := by
  rw [← Duration.exists_ofSeconds_iff]
  unfold token
  cases Duration.ofSeconds grant.leaseSeconds with
  | ok duration => exact ⟨fun _ => ⟨duration, rfl⟩, fun _ => ⟨_, rfl⟩⟩
  | error fault =>
    constructor
    · rintro ⟨token, h⟩
      cases h
    · rintro ⟨duration, h⟩
      cases h

/-- A grant that gives no token has too long a lease. -/
theorem Grant.token_failsIn (grant : Grant) :
    FailsIn (fun f => f.kind = .overflow) grant.token := by
  have hkind : ∀ fault, (Failure.badDuration fault).kind = .overflow := fun _ => rfl
  exact .bind (.mapError hkind _) fun _ => .ok _

/-- A body that is not nested too deeply holds a grant or fails to in a foreseen way. -/
theorem Grant.ofResponse_failsIn {answer : Response}
    (h : ∀ container, Json.readBytes answer.body ≠ .error (.tooDeep container)) :
    FailsIn Failure.IsForeseen (ofResponse answer) := by
  unfold ofResponse
  refine .bind ?_ fun value => ?_
  · cases hread : Json.readBytes answer.body with
    | ok value => exact .ok value
    | error fault =>
      cases fault with
      | tooDeep container => exact absurd hread (h container)
      | _ => exact .error (.inr rfl)
  · dsimp only
    split
    · exact .ok _
    · exact .error (.inr rfl)

namespace Vault

/-- Whether a failure is reported as a failure to log in. -/
def Reports (f : Failure) : Prop := f.IsForeseen ∨ f.kind = .authentication

/-- A failure is explained as an authentication failure exactly if it is reported. -/
theorem kind_explain_iff (method : Text) (failure : Failure) :
    (explain method failure).kind = .authentication ↔ Reports failure := by
  rw [kind_explain, Reports, Failure.IsForeseen]
  split
  · case isTrue h => simpa using .inl (by simpa using h)
  · case isFalse h => simp_all

/-- A failure that is not reported passes through as it is. -/
theorem explain_eq_self (method : Text) {failure : Failure} (h : ¬ Reports failure) :
    explain method failure = failure := by
  obtain ⟨hforeseen, -⟩ := not_or.mp h
  obtain ⟨hhttp, hvalue⟩ := not_or.mp hforeseen
  unfold explain
  rw [if_neg hhttp, if_neg hvalue]

/-! ## Reading the answer -/

/-- A failure to read an answer of the vault is foreseen, or is its refusal, unless the answer is nested
too deeply. -/
theorem reading (method : Text) : Reading (readAnswer method) (fun _ => True) Reports where
  foreseen _ h := .inl h
  badUrl fault := by
    rintro ((h | h) | h) <;> cases h
  tooDeep container := by
    rintro ((h | h) | h) <;> cases h
  fails answer := by
    by_cases hdeep : ∃ container, Json.readBytes answer.body = .error (.tooDeep container)
    · obtain ⟨container, hdeep⟩ := hdeep
      rw [readAnswer_of_tooDeep method hdeep]
      exact .error (.inr ⟨container, rfl, trivial, hdeep⟩)
    · have hshallow := not_exists.mp hdeep
      cases herror : answer.status.isError with
      | true =>
        obtain ⟨reasons, hrefused⟩ := readAnswer_eq_of_isError method herror hshallow
        rw [hrefused]
        exact .error (.inl (.inr rfl))
      | false =>
        rw [readAnswer_eq_of_not_isError method herror]
        exact (Grant.ofResponse_failsIn hshallow).mono fun _ h => .inl (.inl h)
  stops answer container _ hdeep := readAnswer_of_tooDeep method hdeep

/-- No grant is read from a refusal. -/
theorem readAnswer_ne_ok (method : Text) {answer : Response}
    (herror : answer.status.isError = true) (grant : Grant) :
    readAnswer method answer ≠ .ok grant := by
  unfold readAnswer
  rw [herror]
  cases refusal answer <;>
    · intro h
      cases h

/-- Whether an answer to a request is taken for a grant. All that is asked of its status is that it is no
error. -/
structure Grants (request : Request) (answer : Response) (grant : Grant) : Prop where
  /-- Nothing is wrong with the answer as such. -/
  checked : request.checkResponse answer = .ok ()
  /-- It is no refusal. -/
  notError : answer.status.isError = false
  /-- Its body says what is granted. -/
  read : Grant.ofResponse answer = .ok grant

/-- A grant is read from an answer exactly if it is taken for this grant. -/
theorem grants_iff (method : Text) {request : Request} {answer : Response} {grant : Grant} :
    (request.checkResponse answer >>= fun _ => readAnswer method answer) = .ok grant ↔
      Grants request answer grant := by
  rw [except_bind_eq_ok]
  constructor
  · rintro ⟨_, hchecked, hread⟩
    cases herror : answer.status.isError with
    | true => exact absurd hread (readAnswer_ne_ok method herror grant)
    | false =>
      rw [readAnswer_eq_of_not_isError method herror] at hread
      exact ⟨hchecked, herror, hread⟩
  · rintro ⟨hchecked, herror, hread⟩
    exact ⟨(), hchecked, by rw [readAnswer_eq_of_not_isError method herror, hread]⟩

/-! ## From the answer to the end -/

variable (v : Vault) (method assertion mount role : Text)

/-- What comes of asking the vault, in its own words, after the given number of earlier requests. -/
def asked (earlier : Nat) : Except Failure Grant :=
  (v.posting assertion mount role).ask v.endpoint earlier (readAnswer method)

/-- How an exchange can fail in a way that nobody foresaw. -/
inductive Unforeseen (earlier : Nat) : Failure → Prop
  /-- As asking any service can. The body of every answer is read. -/
  | asking {failure : Failure} :
    (v.posting assertion mount role).Unforeseen v.endpoint earlier (fun _ => True) failure →
    Unforeseen earlier failure
  /-- The lease is longer than any duration. -/
  | endless {request : Request} {answer : Response} {grant : Grant} {fault : Duration.Fault} :
    (v.posting assertion mount role).request = .ok request →
    v.endpoint earlier request = .ok answer →
    Grants request answer grant →
    Duration.ofSeconds grant.leaseSeconds = .error fault →
    Unforeseen earlier (.badDuration fault)

/-- What an exchange ends with: the token of the grant, or why there is none. -/
def given (earlier : Nat) : Except Failure Token :=
  (v.asked method assertion mount role earlier).mapError (explain method) >>= Grant.token

/-- The names of what is reported, by what came of asking. -/
def reportNames : Except Failure Grant → List String
  | .ok _ => ["vault_login_succeeded"]
  | .error _ => []

/-- An exchange reports that there is a grant, and goes on to make a token of it. -/
theorem exchange_after (before : Journal) : ∃ entries,
    (v.exchange method assertion mount role).after before =
      (v.given method assertion mount role (before.requestsTo .vault).length, before ++ entries) ∧
      entries.eventNames =
        reportNames (v.asked method assertion mount role (before.requestsTo .vault).length) := by
  obtain ⟨result, entries, hafter, hcourse⟩ := v.exists_course method assertion mount role before
  refine ⟨entries, ?_⟩
  rw [hafter, given, asked, Posting.ask_eq]
  cases hcourse with
  | unsent hrequest =>
    rw [hrequest]
    exact ⟨rfl, rfl⟩
  | refused hrequest houtcome =>
    rw [hrequest, except_ok_bind]
    unfold outcome at houtcome
    rw [houtcome]
    exact ⟨rfl, rfl⟩
  | granted hrequest houtcome =>
    rw [hrequest, except_ok_bind]
    unfold outcome at houtcome
    rw [houtcome]
    exact ⟨rfl, rfl⟩

variable {v assertion mount role} {earlier : Nat}

/-- What it takes for asking to come to a grant. -/
theorem asked_eq_ok {grant : Grant} :
    v.asked method assertion mount role earlier = .ok grant ↔
      ∃ request answer, (v.posting assertion mount role).request = .ok request ∧
        v.endpoint earlier request = .ok answer ∧ Grants request answer grant := by
  unfold asked Posting.ask
  simp only [except_bind_eq_ok, ← grants_iff method, exists_and_left]

/-- A failure of asking passes through as it is exactly if nobody foresaw it. -/
theorem asked_eq_error_iff
    (hendpoint : ∀ request failure, v.endpoint earlier request = .error failure →
      failure.kind.isHttp = true) {failure : Failure} :
    v.asked method assertion mount role earlier = .error failure ∧ ¬ Reports failure ↔
      (v.posting assertion mount role).Unforeseen v.endpoint earlier (fun _ => True) failure :=
  (reading method).ask_iff _ hendpoint failure

/-- What an exchange fails with is no failure to log in exactly if nobody foresaw it. -/
theorem unforeseen_iff
    (hendpoint : ∀ request failure, v.endpoint earlier request = .error failure →
      failure.kind.isHttp = true) {failure : Failure} :
    v.Unforeseen assertion mount role earlier failure ↔
      v.given method assertion mount role earlier = .error failure ∧
        failure.kind ≠ .authentication := by
  unfold given
  constructor
  · intro h
    cases h with
    | asking h =>
      obtain ⟨hasked, hnot⟩ := (asked_eq_error_iff method hendpoint).mpr h
      rw [hasked, mapError_error, explain_eq_self method hnot]
      exact ⟨rfl, fun hkind => hnot (.inr hkind)⟩
    | endless hrequest hanswer hgrants hlease =>
      rw [(asked_eq_ok method).mpr ⟨_, _, hrequest, hanswer, hgrants⟩, mapError_ok, except_ok_bind,
        Grant.token, hlease]
      exact ⟨rfl, nofun⟩
  · rintro ⟨hfails, hkind⟩
    cases hasked : v.asked method assertion mount role earlier with
    | error cause =>
      rw [hasked] at hfails
      obtain rfl : explain method cause = failure := Except.error.inj hfails
      have hnot : ¬ Reports cause := fun h => hkind ((kind_explain_iff method cause).mpr h)
      rw [explain_eq_self method hnot]
      exact .asking ((asked_eq_error_iff method hendpoint).mp ⟨hasked, hnot⟩)
    | ok grant =>
      rw [hasked, mapError_ok, except_ok_bind, Grant.token] at hfails
      obtain ⟨request, answer, hrequest, hanswer, hgrants⟩ := (asked_eq_ok method).mp hasked
      cases hlease : Duration.ofSeconds grant.leaseSeconds with
      | ok duration =>
        rw [hlease] at hfails
        cases hfails
      | error fault =>
        rw [hlease] at hfails
        obtain rfl : Failure.badDuration fault = failure := Except.error.inj hfails
        exact .endless hrequest hanswer hgrants hlease

/-- What nobody foresaw is reported as an exchange exactly if it is the lease. -/
theorem Unforeseen.mem_reportNames_iff
    (hendpoint : ∀ request failure, v.endpoint earlier request = .error failure →
      failure.kind.isHttp = true) {failure : Failure}
    (h : v.Unforeseen assertion mount role earlier failure) :
    "vault_login_succeeded" ∈ reportNames (v.asked method assertion mount role earlier) ↔
      failure.kind = .overflow := by
  cases h with
  | asking h =>
    obtain ⟨hasked, -⟩ := (asked_eq_error_iff method hendpoint).mpr h
    rw [hasked]
    rcases h.kind with hkind | hkind <;> simp [reportNames, hkind]
  | endless hrequest hanswer hgrants _ =>
    rw [(asked_eq_ok method).mpr ⟨_, _, hrequest, hanswer, hgrants⟩]
    exact ⟨fun _ => rfl, fun _ => List.mem_singleton.mpr rfl⟩

/-- Unless an exchange goes wrong in a way that nobody foresaw, it is reported exactly if it gives a
token. -/
theorem mem_reportNames_iff
    (hendpoint : ∀ request failure, v.endpoint earlier request = .error failure →
      failure.kind.isHttp = true)
    (h : ∀ failure, ¬ v.Unforeseen assertion mount role earlier failure) :
    "vault_login_succeeded" ∈ reportNames (v.asked method assertion mount role earlier) ↔
      ∃ token, v.given method assertion mount role earlier = .ok token := by
  cases hasked : v.asked method assertion mount role earlier with
  | error cause => simp [given, hasked, reportNames]
  | ok grant =>
    have hgiven : v.given method assertion mount role earlier = grant.token := by
      rw [given, hasked, mapError_ok, except_ok_bind]
    have htoken : ∃ token, grant.token = .ok token := by
      cases hfails : grant.token with
      | ok token => exact ⟨token, rfl⟩
      | error failure =>
        have hkind : failure.kind ≠ .authentication := by
          rw [grant.token_failsIn failure hfails]
          nofun
        exact absurd ((unforeseen_iff method hendpoint).mpr ⟨hgiven.trans hfails, hkind⟩) (h failure)
    rw [hgiven]
    exact ⟨fun _ => htoken, fun _ => List.mem_singleton.mpr rfl⟩

/-- An exchange with a vault that fails only in not giving a good answer: it fails as a failure to log in
or gives a token, and reports the exchange exactly if it gives one, exactly unless it goes wrong in a way
that nobody foresaw. In such a way it fails as it is, and if it is the lease that goes wrong, the exchange
was reported before. -/
theorem exchange_settles_iff (v : Vault) (method assertion mount role : Text) (before : Journal)
    (hendpoint : ∀ request failure,
      v.endpoint (before.requestsTo .vault).length request = .error failure →
        failure.kind.isHttp = true) :
    ∃ result entries,
      (v.exchange method assertion mount role).after before = (result, before ++ entries) ∧
      (((∀ failure, result = .error failure → failure.kind = .authentication) ∧
          ("vault_login_succeeded" ∈ entries.eventNames ↔ ∃ token, result = .ok token)) ↔
        ∀ failure,
          ¬ v.Unforeseen assertion mount role (before.requestsTo .vault).length failure) ∧
      ∀ failure, v.Unforeseen assertion mount role (before.requestsTo .vault).length failure →
        result = .error failure ∧
          ("vault_login_succeeded" ∈ entries.eventNames ↔ failure.kind = .overflow) := by
  obtain ⟨entries, hafter, hnames⟩ := v.exchange_after method assertion mount role before
  refine ⟨_, entries, hafter, ?_, fun failure hunforeseen => ?_⟩
  · rw [hnames]
    constructor
    · rintro ⟨hauthentication, -⟩ failure hunforeseen
      obtain ⟨hfails, hkind⟩ := (unforeseen_iff method hendpoint).mp hunforeseen
      exact hkind (hauthentication failure hfails)
    · intro h
      refine ⟨fun failure hfails => ?_, mem_reportNames_iff method hendpoint h⟩
      by_cases hkind : failure.kind = .authentication
      · exact hkind
      · exact absurd ((unforeseen_iff method hendpoint).mpr ⟨hfails, hkind⟩) (h failure)
  · rw [hnames]
    exact ⟨((unforeseen_iff method hendpoint).mp hunforeseen).1,
      hunforeseen.mem_reportNames_iff method hendpoint⟩

/-- An answer that opens too many lists fails the exchange as it is, whatever its status and whatever
comes after. -/
theorem exchange_lists (v : Vault) (method assertion mount role : Text) (before : Journal)
    {request : Request} {answer : Response}
    (hrequest : (v.posting assertion mount role).request = .ok request)
    (hanswer : v.endpoint (before.requestsTo .vault).length request = .ok answer)
    (hchecked : request.checkResponse answer = .ok ()) {cs : List Char}
    (hzero : ∀ c ∈ cs, 0 < c.toNat)
    (hbody : answer.body =
      Utf8.encode (List.replicate (Json.Reader.depthLimit + 1) '[' ++ cs)) :
    ((v.exchange method assertion mount role).after before).1 =
      .error (.badBody (.tooDeep .array)) := by
  have hdeep : Json.readBytes answer.body = .error (.tooDeep .array) := by
    rw [hbody, Json.readBytes_lists hzero]
  obtain ⟨entries, hafter, -⟩ := v.exchange_after method assertion mount role before
  rw [hafter, given, asked, Posting.ask_of_answer hrequest hanswer, hchecked, except_ok_bind,
    readAnswer_of_tooDeep method hdeep]
  rfl

/-- A vault that cannot be reached. -/
def unreachable : Vault where
  address := "https://vault.example"
  space := none
  endpoint := fun _ _ => .error (.raised .connect "no route")

/-- An exchange settles if the vault cannot be reached. -/
theorem exchange_settles_iff_unreachable :
    (∀ request failure, unreachable.endpoint 0 request = .error failure →
        failure.kind.isHttp = true) ∧
      ∃ (result : Except Failure Token) (entries : Journal),
        (unreachable.exchange "GCP-IAM" "jwt" "gcp" "role").after [] = (result, [] ++ entries) ∧
        (∀ failure, result = .error failure → failure.kind = .authentication) ∧
        ("vault_login_succeeded" ∈ entries.eventNames ↔ ∃ token, result = .ok token) := by
  have hendpoint : ∀ request failure, unreachable.endpoint 0 request = .error failure →
      failure.kind.isHttp = true := by
    intro request failure h
    cases h
    rfl
  have hsome : (unreachable.posting "jwt" "gcp" "role").url.toOption.isSome = true := by
    decide +kernel
  obtain ⟨result, entries, hafter, hiff, -⟩ :=
    exchange_settles_iff unreachable "GCP-IAM" "jwt" "gcp" "role" [] hendpoint
  refine ⟨hendpoint, result, entries, hafter, hiff.mpr ?_⟩
  rintro failure ((hurl | ⟨-, hanswer, -⟩) | ⟨-, hanswer, -, -⟩)
  · rw [hurl] at hsome
    cases hsome
  · cases hanswer
  · cases hanswer

/-- A vault that always gives the same answer. -/
def answering (answer : Response) : Vault where
  address := "https://vault.example"
  space := none
  endpoint := fun _ _ => .ok answer

/-- An answer with a status that grants a right for some seconds. -/
def granting (status : Nat) (seconds : Int) : Response where
  status := ⟨status⟩
  headers := []
  body := Utf8.encode (Json.render .body (.ofMembers [("auth", .ofMembers
    [("client_token", Json.ofString "t"), ("lease_duration", .int seconds)])])).toList

/-- With a lease of one second more than a duration can have, the exchange is reported, and fails as no
failure to log in. -/
theorem exchange_endless :
    (∀ earlier request, ∃ answer,
        (answering (granting 200 86400000000000)).endpoint earlier request = .ok answer) ∧
      (∃ failure, (((answering (granting 200 86400000000000)).exchange
          "GCP-IAM" "jwt" "gcp" "role").after []).1 = .error failure ∧ failure.kind = .overflow) ∧
      "vault_login_succeeded" ∈ Journal.eventNames (((answering (granting 200 86400000000000)).exchange
          "GCP-IAM" "jwt" "gcp" "role").after []).2 :=
  ⟨fun _ _ => ⟨_, rfl⟩, failureKind?_eq_some.mp (by decide +kernel), by decide +kernel⟩

/-! ## The status of the answer -/

/-- What comes of an answer is a failure to log in exactly if it neither fails in a way that nobody
foresaw nor is taken for a grant. -/
theorem refuses_iff (method : Text) {request : Request} {answer : Response} :
    (∃ failure,
        ((request.checkResponse answer >>= fun _ => readAnswer method answer).mapError
          (explain method) >>= Grant.token) = .error failure ∧ failure.kind = .authentication) ↔
      (∀ failure, ¬ request.Unforeseen answer True failure) ∧
        ∀ grant, ¬ Grants request answer grant := by
  have hunforeseen := (reading method).answer_iff request answer
  simp only [← hunforeseen, ← grants_iff method]
  cases request.checkResponse answer >>= fun _ => readAnswer method answer with
  | ok grant =>
    constructor
    · rintro ⟨failure, hfails, hkind⟩
      rw [grant.token_failsIn failure hfails] at hkind
      cases hkind
    · rintro ⟨-, hnone⟩
      exact absurd rfl (hnone grant)
  | error cause =>
    constructor
    · rintro ⟨failure, hfails, hkind⟩
      obtain rfl : explain method cause = failure := Except.error.inj hfails
      have hreports : Reports cause := (kind_explain_iff method cause).mp hkind
      refine ⟨?_, nofun⟩
      rintro _ ⟨⟨⟩, hnot⟩
      exact hnot hreports
    · rintro ⟨hnone, -⟩
      have hreports : Reports cause := by
        by_cases h : Reports cause
        · exact h
        · exact absurd ⟨rfl, h⟩ (hnone cause)
      exact ⟨_, rfl, (kind_explain_iff method cause).mpr hreports⟩

/-- An answered exchange: only a success gives a token, and every other answer is a failure to log in,
exactly if the answer is a success, or neither fails in a way that nobody foresaw nor is taken for a
grant. What is taken for a grant gives its token, whatever the status, as far as the lease is in reach. -/
theorem exchange_needsSuccess_iff (v : Vault) (method assertion mount role : Text)
    (before : Journal) {request : Request} {answer : Response}
    (hrequest : (v.posting assertion mount role).request = .ok request)
    (hanswer : v.endpoint (before.requestsTo .vault).length request = .ok answer) :
    ∃ result entries,
      (v.exchange method assertion mount role).after before = (result, before ++ entries) ∧
      (((∀ token, result = .ok token → answer.status.isSuccess = true) ∧
          (answer.status.isSuccess = false →
            ∃ failure, result = .error failure ∧ failure.kind = .authentication)) ↔
        answer.status.isSuccess = true ∨
          (∀ failure, ¬ request.Unforeseen answer True failure) ∧
            ∀ grant, ¬ Grants request answer grant) ∧
      ∀ grant, Grants request answer grant → result = grant.token ∧
        (Duration.InReach grant.leaseSeconds → ∃ token, result = .ok token) := by
  obtain ⟨entries, hafter, -⟩ := v.exchange_after method assertion mount role before
  rw [given, asked, Posting.ask_of_answer hrequest hanswer] at hafter
  refine ⟨_, entries, hafter, ?_, fun grant hgrants => ?_⟩
  · constructor
    · rintro ⟨-, h⟩
      cases hstatus : answer.status.isSuccess with
      | true => exact .inl rfl
      | false => exact .inr ((refuses_iff method).mp (h hstatus))
    · rintro (hsuccess | h)
      · refine ⟨fun _ _ => hsuccess, fun hstatus => ?_⟩
        rw [hsuccess] at hstatus
        cases hstatus
      · have hrefuses := (refuses_iff method).mpr h
        refine ⟨fun token htoken => ?_, fun _ => hrefuses⟩
        obtain ⟨failure, hfails, -⟩ := hrefuses
        rw [htoken] at hfails
        cases hfails
  · rw [(grants_iff method).mpr hgrants]
    exact ⟨rfl, Grant.exists_token_iff.mpr⟩

/-- An answer with the status of a refusal is refused, though its body grants something. -/
theorem exchange_needsSuccess_iff_forbidden : ∃ request,
    ((answering (granting 403 10)).posting "jwt" "gcp" "role").request = .ok request ∧
      (answering (granting 403 10)).endpoint 0 request = .ok (granting 403 10) ∧
      ∃ (result : Except Failure Token) (entries : Journal),
        ((answering (granting 403 10)).exchange "GCP-IAM" "jwt" "gcp" "role").after [] =
          (result, [] ++ entries) ∧
        ∃ failure, result = .error failure ∧ failure.kind = .authentication := by
  obtain ⟨request, hrequest⟩ : ∃ request,
      ((answering (granting 403 10)).posting "jwt" "gcp" "role").request = .ok request := by
    obtain ⟨request, hrequest, -⟩ := toOption_map_eq_some.mp (show
      (((answering (granting 403 10)).posting "jwt" "gcp" "role").request.toOption.map
        Request.body) = some "\x7b\"role\":\"role\",\"jwt\":\"jwt\"\x7d" by decide +kernel)
    exact ⟨request, hrequest⟩
  have hread : (Json.readBytes (granting 403 10).body).toOption.isSome = true := by decide +kernel
  obtain ⟨result, entries, hafter, hiff, -⟩ :=
    exchange_needsSuccess_iff (answering (granting 403 10)) "GCP-IAM" "jwt" "gcp" "role" []
      hrequest rfl
  have hclaim := hiff.mpr (.inr ⟨?_, ?_⟩)
  · exact ⟨request, hrequest, rfl, result, entries, hafter, hclaim.2 (by decide)⟩
  · rintro failure (⟨-, -, hlocation, -⟩ | ⟨-, -, hdeep⟩)
    · cases hlocation
    · rw [hdeep] at hread
      cases hread
  · rintro grant ⟨-, herror, -⟩
    cases herror

/-- An answer that sends the client on gives a token if its body grants one. -/
theorem exchange_sentOn :
    (granting 302 10).status.isSuccess = false ∧
      ∃ token, (((answering (granting 302 10)).exchange
          "GCP-IAM" "jwt" "gcp" "role").after []).1 = .ok token ∧ token.secret = "t" :=
  ⟨by decide, toOption_map_eq_some.mp (by decide +kernel)⟩

end Vault

end IamLogin
