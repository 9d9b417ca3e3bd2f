import IamLogin.Proofs.Course
import IamLogin.Proofs.Foreseen
import IamLogin.Proofs.Json.Nesting
import IamLogin.Proofs.Secrets

/-!
# How signing fails

Asking the signer fails as a failure to sign, with what went wrong behind it, unless what went wrong was
foreseen by nobody. So it is for every pair of ids, every claim and every token, as far as the signer
fails only in not giving a good answer; the exceptions are given one by one, and each of them does pass
through as it is. The first of them comes before the signer is asked: claims that cannot be written.
-/

namespace IamLogin

/-- No failure is behind itself. -/
theorem Failure.cause?_ne_some_self (f : Failure) : f.cause? ≠ some f := by
  intro h
  cases f <;> simp only [cause?, Option.some.injEq, reduceCtorEq] at h
  all_goals
    have hsize := congrArg sizeOf h
    simp at hsize

namespace Signature

/-- A failure to read an answer of the signer is foreseen unless the answer is a success that is nested
too deeply. -/
theorem reading : Reading ofResponse (fun answer => answer.status.isSuccess = true)
    Failure.IsForeseen where
  foreseen _ h := h
  badUrl fault := by
    rintro (h | h) <;> cases h
  tooDeep container := by
    rintro (h | h) <;> cases h
  fails answer := by
    cases hsuccess : answer.status.isSuccess with
    | false =>
      unfold ofResponse
      rw [hsuccess]
      exact .error (.inl (.inl rfl))
    | true =>
      cases hread : Json.readBytes answer.body with
      | error fault =>
        unfold ofResponse
        rw [hsuccess, hread]
        cases fault with
        | tooDeep container => exact .error (.inr ⟨container, rfl, rfl, rfl⟩)
        | _ => exact .error (.inl (.inr rfl))
      | ok value =>
        cases value with
        | obj members =>
          rw [ofResponse_eq hsuccess hread]
          split
          · exact .ok _
          · exact .error (.inl (.inr rfl))
        | _ =>
          unfold ofResponse
          rw [hsuccess, hread]
          exact .error (.inl (.inr rfl))
  stops answer container hsuccess hdeep := by
    unfold ofResponse
    rw [hsuccess, hdeep]
    rfl

end Signature

namespace Signer

/-- What comes of asking the signer, in its own words, after the given number of earlier requests. -/
def asked (s : Signer) (project account : Text) (claims : Json.Members) (token : Option Text)
    (earlier : Nat) : Except Failure Signature := do
  let payload ← Claims.payload claims
  (s.posting (resource project account) payload token).ask s.endpoint earlier Signature.ofResponse

/-- How having members signed can fail in a way that nobody foresaw. -/
inductive Unforeseen (s : Signer) (project account : Text) (claims : Json.Members)
    (token : Option Text) (earlier : Nat) : Failure → Prop
  /-- The members cannot be written. -/
  | unwritable {failure : Failure} :
    Claims.payload claims = .error failure →
    Unforeseen s project account claims token earlier failure
  /-- The signer is asked, and this fails in such a way. The body of an answer is read if its status is
  a success. -/
  | asked {payload : String} {failure : Failure} :
    Claims.payload claims = .ok payload →
    (s.posting (resource project account) payload token).Unforeseen s.endpoint earlier
      (fun answer => answer.status.isSuccess = true) failure →
    Unforeseen s project account claims token earlier failure

/-- A failure that nobody foresaw passes through as it is. -/
theorem explain_eq_self (resource : Text) {failure : Failure} (h : ¬ failure.IsForeseen) :
    explain resource failure = failure := by
  obtain ⟨hhttp, hvalue⟩ := not_or.mp h
  unfold explain
  split
  · exact absurd rfl hhttp
  · rw [if_neg hhttp, if_neg hvalue]

/-- A failure that is foreseen stands behind the one that is reported. -/
theorem cause?_explain (resource : Text) {failure : Failure} (h : failure.IsForeseen) :
    (explain resource failure).cause? = some failure := by
  unfold explain
  split
  · rfl
  · split
    · rfl
    · case isFalse hhttp =>
      rw [if_pos (h.resolve_left hhttp)]
      rfl

/-- A failure is reported as a failure to sign, with itself behind it, exactly if it is foreseen. -/
theorem explain_reports_iff (resource : Text) (failure : Failure) :
    (explain resource failure).kind = .signing ∧
      (explain resource failure).cause? = some failure ↔ failure.IsForeseen := by
  constructor
  · rintro ⟨-, hcause⟩
    by_cases h : failure.IsForeseen
    · exact h
    · rw [explain_eq_self resource h] at hcause
      exact absurd hcause failure.cause?_ne_some_self
  · intro h
    refine ⟨?_, cause?_explain resource h⟩
    rw [kind_explain, if_pos (by simpa [Failure.IsForeseen] using h)]

/-- What is reported, by what came of asking. -/
def reported (resource : Text) : Except Failure Signature → List Event
  | .ok signature => [.signed resource signature.keyId]
  | .error _ => []

/-- What comes of asking with members that can be written. -/
theorem asked_of_payload (s : Signer) (project account : Text) {claims : Json.Members}
    {payload : String} (h : Claims.payload claims = .ok payload) (token : Option Text)
    (earlier : Nat) :
    s.asked project account claims token earlier =
      (s.posting (resource project account) payload token).ask s.endpoint earlier
        Signature.ofResponse := by
  rw [asked, h, except_ok_bind]

/-- Having members signed that can be written gives the assertion of the signature that was asked for, or
explains why there is none. What is reported goes by what came of asking in any case. -/
theorem sign_after (s : Signer) (project account : Text) (claims : Json.Members)
    (token : Option Text) (before : Journal) : ∃ result entries,
    (s.sign project account claims token).after before = (result, before ++ entries) ∧
      (∀ payload, Claims.payload claims = .ok payload →
        result = ((s.asked project account claims token (before.requestsTo .iam).length).mapError
          (explain (resource project account))).map Signature.assertion) ∧
      (∀ failure, Claims.payload claims = .error failure → result = .error failure) ∧
      entries.events = reported (resource project account)
        (s.asked project account claims token (before.requestsTo .iam).length) := by
  obtain ⟨result, entries, hafter, hcourse⟩ := s.exists_course project account claims token before
  refine ⟨result, entries, hafter, ?_⟩
  cases hpayload : Claims.payload claims with
  | error failure =>
    have hasked : s.asked project account claims token (before.requestsTo .iam).length =
        .error failure := by
      rw [asked, hpayload, except_error_bind]
    rw [hasked]
    have hnone : ∀ request, s.request (resource project account) claims token ≠ .ok request := by
      intro request hrequest
      obtain ⟨payload, hwritten, -⟩ := request_eq_ok_iff.mp hrequest
      rw [hpayload] at hwritten
      cases hwritten
    cases hcourse with
    | unwritten hfails =>
      rw [hpayload] at hfails
      exact ⟨fun _ => nofun, fun _ h => h ▸ hfails.symm, rfl⟩
    | unsent hwritten _ =>
      rw [hpayload] at hwritten
      cases hwritten
    | refused hrequest _ => exact absurd hrequest (hnone _)
    | signed hrequest _ => exact absurd hrequest (hnone _)
  | ok payload =>
    rw [s.asked_of_payload project account hpayload, Posting.ask_eq]
    have hposted : ∀ request, s.request (resource project account) claims token = .ok request →
        (s.posting (resource project account) payload token).request = .ok request := by
      intro request hrequest
      obtain ⟨written, hwritten, hposted⟩ := request_eq_ok_iff.mp hrequest
      obtain rfl : payload = written := Except.ok.inj (hpayload.symm.trans hwritten)
      exact hposted
    cases hcourse with
    | unwritten hfails =>
      rw [hpayload] at hfails
      cases hfails
    | unsent hwritten hunsent =>
      obtain rfl := Except.ok.inj (hpayload.symm.trans hwritten)
      rw [hunsent]
      exact ⟨fun _ _ => rfl, fun _ => nofun, rfl⟩
    | refused hrequest houtcome =>
      rw [hposted _ hrequest, except_ok_bind]
      unfold outcome at houtcome
      rw [houtcome]
      exact ⟨fun _ _ => rfl, fun _ => nofun, rfl⟩
    | signed hrequest houtcome =>
      rw [hposted _ hrequest, except_ok_bind]
      unfold outcome at houtcome
      rw [houtcome]
      exact ⟨fun _ _ => rfl, fun _ => nofun, rfl⟩

/-- Members that cannot be written are not signed, for that reason. -/
theorem sign_of_unwritable (s : Signer) (project account : Text) {claims : Json.Members}
    {failure : Failure} (h : Claims.payload claims = .error failure) (token : Option Text)
    (before : Journal) : ((s.sign project account claims token).after before).1 = .error failure := by
  obtain ⟨result, entries, hafter, -, hfails, -⟩ := s.sign_after project account claims token before
  rw [hafter, hfails failure h]

/-- What having members signed ends with if they can be written. -/
theorem sign_result (s : Signer) (project account : Text) {claims : Json.Members}
    {payload : String} (h : Claims.payload claims = .ok payload) (token : Option Text)
    (before : Journal) :
    ((s.sign project account claims token).after before).1 =
      ((s.asked project account claims token (before.requestsTo .iam).length).mapError
        (explain (resource project account))).map Signature.assertion := by
  obtain ⟨result, entries, hafter, hresult, -⟩ := s.sign_after project account claims token before
  rw [hafter, hresult payload h]

/-- Having members signed that can be written fails as asking does, in other words. -/
theorem sign_eq_error_iff {s : Signer} {project account : Text} {claims : Json.Members}
    {payload : String} (h : Claims.payload claims = .ok payload) {token : Option Text}
    {before : Journal} {failure : Failure} :
    ((s.sign project account claims token).after before).1 = .error failure ↔
      ∃ cause, s.asked project account claims token (before.requestsTo .iam).length = .error cause ∧
        explain (resource project account) cause = failure := by
  rw [sign_result s project account h]
  cases s.asked project account claims token (before.requestsTo .iam).length with
  | ok signature =>
    constructor
    · intro h
      cases h
    · rintro ⟨cause, h, -⟩
      cases h
  | error cause =>
    constructor
    · intro h
      exact ⟨cause, rfl, Except.error.inj h⟩
    · rintro ⟨_, ⟨⟩, rfl⟩
      rfl

/-- With members that can be written, a failure of asking is not foreseen exactly if it is one of the
ways that are given. -/
theorem asked_eq_error_iff {s : Signer} {project account : Text} {claims : Json.Members}
    {payload : String} (h : Claims.payload claims = .ok payload) {token : Option Text}
    {earlier : Nat}
    (hendpoint : ∀ request failure, s.endpoint earlier request = .error failure →
      failure.kind.isHttp = true) {failure : Failure} :
    s.asked project account claims token earlier = .error failure ∧ ¬ failure.IsForeseen ↔
      s.Unforeseen project account claims token earlier failure := by
  rw [s.asked_of_payload project account h, Signature.reading.ask_iff _ hendpoint failure]
  constructor
  · exact fun hunforeseen => .asked h hunforeseen
  · intro hunforeseen
    cases hunforeseen with
    | unwritable hfails =>
      rw [h] at hfails
      cases hfails
    | asked hwritten hunforeseen =>
      obtain rfl := Except.ok.inj (h.symm.trans hwritten)
      exact hunforeseen

/-- What keeps members from being written is no failure to sign. -/
theorem kind_ne_signing_of_payload {claims : Json.Members} {failure : Failure}
    (h : Claims.payload claims = .error failure) : failure.kind ≠ .signing := by
  have hkind : ∀ fault, (Failure.unwritable fault).kind ≠ .signing := by
    intro fault
    cases fault <;> decide
  have hfails : FailsIn (fun f => f.kind ≠ .signing) (Claims.payload claims) := .mapError hkind _
  exact hfails failure h

/-- A signer that fails only in not giving a good answer: having members signed fails as a failure to
sign, with what went wrong behind it, exactly unless it goes wrong in a way that nobody foresaw. In such a
way it fails as it is. -/
theorem sign_failsAsSigning_iff (s : Signer) (project account : Text) (claims : Json.Members)
    (token : Option Text) (before : Journal)
    (hendpoint : ∀ request failure,
      s.endpoint (before.requestsTo .iam).length request = .error failure →
        failure.kind.isHttp = true) :
    ((∀ failure, ((s.sign project account claims token).after before).1 = .error failure →
        failure.kind = .signing ∧ ∃ cause, failure.cause? = some cause ∧
          s.asked project account claims token (before.requestsTo .iam).length = .error cause) ↔
      ∀ failure,
        ¬ s.Unforeseen project account claims token (before.requestsTo .iam).length failure) ∧
    ∀ failure, s.Unforeseen project account claims token (before.requestsTo .iam).length failure →
      ((s.sign project account claims token).after before).1 = .error failure := by
  cases hpayload : Claims.payload claims with
  | error fault =>
    have hsign := s.sign_of_unwritable project account hpayload token before
    refine ⟨⟨fun h => ?_, fun h => absurd (.unwritable hpayload) (h fault)⟩,
      fun failure hunforeseen => ?_⟩
    · exact absurd (h fault hsign).1 (kind_ne_signing_of_payload hpayload)
    · cases hunforeseen with
      | unwritable hfails => exact hsign.trans (hpayload.symm.trans hfails ▸ rfl)
      | asked hwritten _ =>
        rw [hpayload] at hwritten
        cases hwritten
  | ok payload =>
    refine ⟨⟨fun h failure hunforeseen => ?_, fun h failure hfails => ?_⟩,
      fun failure hunforeseen => ?_⟩
    · obtain ⟨hasked, hnot⟩ := (asked_eq_error_iff hpayload hendpoint).mpr hunforeseen
      obtain ⟨hkind, cause, hcause, hbehind⟩ :=
        h _ ((sign_eq_error_iff hpayload).mpr ⟨failure, hasked, rfl⟩)
      obtain rfl : failure = cause := Except.error.inj (hasked.symm.trans hbehind)
      exact hnot ((explain_reports_iff _ failure).mp ⟨hkind, hcause⟩)
    · obtain ⟨cause, hasked, rfl⟩ := (sign_eq_error_iff hpayload).mp hfails
      have hforeseen : cause.IsForeseen := by
        by_cases hforeseen : cause.IsForeseen
        · exact hforeseen
        · exact absurd ((asked_eq_error_iff hpayload hendpoint).mp ⟨hasked, hforeseen⟩) (h cause)
      obtain ⟨hkind, hcause⟩ :=
        (explain_reports_iff (resource project account) cause).mpr hforeseen
      exact ⟨hkind, cause, hcause, hasked⟩
    · obtain ⟨hasked, hnot⟩ := (asked_eq_error_iff hpayload hendpoint).mpr hunforeseen
      exact (sign_eq_error_iff hpayload).mpr ⟨failure, hasked, explain_eq_self _ hnot⟩

/-- A success that opens too many lists fails as it is, whatever comes after. -/
theorem sign_lists (s : Signer) (project account : Text) (claims : Json.Members)
    (token : Option Text) (before : Journal) {request : Request} {answer : Response}
    (hrequest : s.request (resource project account) claims token = .ok request)
    (hanswer : s.endpoint (before.requestsTo .iam).length request = .ok answer)
    (hchecked : request.checkResponse answer = .ok ())
    (hsuccess : answer.status.isSuccess = true) {cs : List Char} (hzero : ∀ c ∈ cs, 0 < c.toNat)
    (hbody : answer.body =
      Utf8.encode (List.replicate (Json.Reader.depthLimit + 1) '[' ++ cs)) :
    ((s.sign project account claims token).after before).1 =
      .error (.badBody (.tooDeep .array)) := by
  have hdeep : Json.readBytes answer.body = .error (.tooDeep .array) := by
    rw [hbody, Json.readBytes_lists hzero]
  obtain ⟨payload, hpayload, hposted⟩ := request_eq_ok_iff.mp hrequest
  rw [s.sign_result project account hpayload, s.asked_of_payload project account hpayload,
    Posting.ask_of_answer hposted hanswer, hchecked, except_ok_bind,
    Signature.reading.stops answer _ hsuccess hdeep]
  rfl

/-- A claim whose expiry has more digits than are converted is not signed, whatever the signer would
say. -/
theorem sign_huge (s : Signer) (project account : Text) {c : Claims}
    (h : Json.Reader.digitLimit < (Decimal.ofNat c.expiry.natAbs).length) (token : Option Text)
    (before : Journal) :
    ((s.sign project account c.members token).after before).1 =
      .error (.unwritable .hugeInteger) := by
  have hfault : Json.Writer.fault? Json.Reader.depthLimit (.obj c.members) = some .hugeInteger := by
    simp [Json.Writer.fault?, Json.Writer.membersFault?, Claims.members,
      Json.Reader.depthLimit, h]
  refine s.sign_of_unwritable project account ?_ token before
  rw [Claims.payload, Json.write, hfault]
  rfl

/-- A signer that cannot be reached. -/
def unreachable : Signer where
  address := "https://iam.example"
  endpoint := fun _ _ => .error (.raised .connect "no route")

/-- Having members signed fails as a failure to sign if the signer cannot be reached. -/
theorem sign_failsAsSigning_iff_unreachable :
    (∀ request failure, unreachable.endpoint 0 request = .error failure →
        failure.kind.isHttp = true) ∧
      ∀ failure, ((unreachable.sign "p" "a@b" [] none).after []).1 = .error failure →
        failure.kind = .signing ∧ ∃ cause, failure.cause? = some cause ∧
          unreachable.asked "p" "a@b" [] none 0 = .error cause := by
  have hendpoint : ∀ request failure, unreachable.endpoint 0 request = .error failure →
      failure.kind.isHttp = true := by
    intro request failure h
    cases h
    rfl
  refine ⟨hendpoint, (sign_failsAsSigning_iff unreachable "p" "a@b" [] none [] hendpoint).1.mpr ?_⟩
  have hpayload : Claims.payload [] = .ok "\x7b\x7d" := toOption_eq_some.mp (by decide +kernel)
  rintro failure (hfails | ⟨hwritten, hurl | ⟨-, hanswer, -⟩⟩)
  · rw [hpayload] at hfails
    cases hfails
  · obtain rfl := Except.ok.inj (hpayload.symm.trans hwritten)
    have hsome : (unreachable.posting (resource "p" "a@b") "\x7b\x7d" none).url.toOption.isSome =
        true := by
      decide +kernel
    rw [hurl] at hsome
    cases hsome
  · cases hanswer

/-- A signer that sends the client on to a place with a scheme and no host. -/
def misleading : Signer where
  address := "https://iam.example"
  endpoint := fun _ _ => .ok { status := ⟨302⟩, headers := [("location", "http:x")], body := [] }

/-- The signer never fails to answer, and having members signed fails for a text that is no URL. -/
theorem sign_misled :
    (∀ earlier request, ∃ answer, misleading.endpoint earlier request = .ok answer) ∧
      ∃ failure, ((misleading.sign "p" "a@b" [] none).after []).1 = .error failure ∧
        failure.kind = .invalidUrl :=
  ⟨fun _ _ => ⟨_, rfl⟩, failureKind?_eq_some.mp (by decide +kernel)⟩

end Signer

end IamLogin
