import IamLogin.Proofs.SigningFailures
import IamLogin.Proofs.Trail

/-!
# Which answers sign

An answer gives a signature if it is a success, and its body an object that holds an assertion and does
not name the key by anything but a text. That is all that is asked: a signature is read from an answer
exactly if the answer gives it, and other members do not matter.

Having members signed goes by the answer: what is given is reported and returned, and anything else is a
failure to sign that says whether the signer refused or made no sense. The answer is only listened to if
nothing is wrong with it as such, so the places where this fails are those of the check before.
-/

namespace IamLogin

/-- Whether a failure is that a value is wrong, and not that there is no good answer. -/
def Failure.IsWrongValue (f : Failure) : Prop := f.kind.isValue = true ∧ f.kind.isHttp = false

/-- Two values that are checked side by side pass exactly if both do. -/
theorem Checked.map_seq_eq_valid_iff {α β γ : Type} {f : α → β → γ} {first : Checked α}
    {second : Checked β} {value : γ} :
    f <$> first <*> second = valid value ↔
      ∃ a b, first = valid a ∧ second = valid b ∧ f a b = value := by
  simp only [seq_eq_valid, map_eq_valid]
  constructor
  · rintro ⟨_, b, ⟨a, ha, rfl⟩, hb, hvalue⟩
    exact ⟨a, b, ha, hb, hvalue⟩
  · rintro ⟨a, b, ha, hb, hvalue⟩
    exact ⟨f a, b, ⟨a, ha, rfl⟩, hb, hvalue⟩

/-! ## Reading an answer -/

/-- What stands under the first of two names that is there. -/
def Json.eitherMember? (first second : String) (members : Json.Members) : Option Json :=
  (member? first members).or (member? second members)

namespace Signature

/-- Whether members hold a signature: its assertion, which is not empty, and its key by a text, or no
key. -/
structure HeldBy (signature : Signature) (members : Json.Members) : Prop where
  /-- There is something in the assertion. -/
  notEmpty : signature.assertion ≠ ""
  /-- It is a text under the first of its names that is there. -/
  assertion : Json.eitherMember? "signedJwt" "signed_jwt" members =
    some (Json.ofString signature.assertion)
  /-- So is the key, unless it is left open. -/
  keyId : Json.eitherMember? "keyId" "key_id" members = none ∧ signature.keyId = none ∨
    Json.eitherMember? "keyId" "key_id" members = some (Json.ofText? signature.keyId)

/-- Whether an answer gives a signature. -/
structure GivenBy (signature : Signature) (answer : Response) : Prop where
  /-- The answer is a success. -/
  success : answer.status.isSuccess = true
  /-- Its body is an object that holds the signature. -/
  body : ∃ members, Json.readBytes answer.body = .ok (.obj members) ∧ signature.HeldBy members

/-- No signature is given by an answer that is no success. -/
theorem not_givenBy {answer : Response} (h : answer.status.isSuccess = false)
    (signature : Signature) : ¬ signature.GivenBy answer := by
  intro hgiven
  rw [hgiven.success] at h
  cases h

/-- A signature passes exactly if the members hold it. -/
theorem check_eq_valid_iff {members : Json.Members} {signature : Signature} :
    check members = .valid signature ↔ signature.HeldBy members := by
  change mk <$> Field.allow "keyId" none Field.text? (Json.eitherMember? "keyId" "key_id" members)
    <*> Field.need "signedJwt" Field.nonemptyText
      (Json.eitherMember? "signedJwt" "signed_jwt" members) = .valid signature ↔ _
  simp only [Checked.map_seq_eq_valid_iff, Field.allow_eq_valid_iff, Field.need_eq_valid_iff,
    Field.text?_eq_ok_iff, Field.nonemptyText_eq_ok_iff, exists_eq_right]
  constructor
  · rintro ⟨keyId, assertion, hkey, ⟨_, hassertion, hne, rfl⟩, rfl⟩
    exact ⟨hne, hassertion, hkey⟩
  · rintro ⟨hne, hassertion, hkey⟩
    exact ⟨_, _, hkey, ⟨_, hassertion, hne, rfl⟩, rfl⟩

/-- What is read from an answer is a signature that passes, from the object that a success has for its
body. -/
theorem exists_of_ofResponse {answer : Response} {signature : Signature}
    (h : ofResponse answer = .ok signature) : answer.status.isSuccess = true ∧
      ∃ members, Json.readBytes answer.body = .ok (.obj members) ∧
        check members = .valid signature := by
  cases hsuccess : answer.status.isSuccess with
  | false =>
    unfold ofResponse at h
    rw [hsuccess] at h
    cases h
  | true =>
    refine ⟨rfl, ?_⟩
    obtain ⟨members, hread⟩ : ∃ members, Json.readBytes answer.body = .ok (.obj members) := by
      unfold ofResponse at h
      rw [hsuccess] at h
      cases hread : Json.readBytes answer.body with
      | error fault =>
        rw [hread] at h
        cases h
      | ok value =>
        cases value with
        | obj members => exact ⟨members, rfl⟩
        | _ =>
          rw [hread] at h
          cases h
    rw [ofResponse_eq hsuccess hread] at h
    cases hcheck : check members with
    | invalid issues =>
      rw [hcheck] at h
      cases h
    | valid found =>
      rw [hcheck] at h
      obtain rfl : found = signature := Except.ok.inj h
      exact ⟨members, hread, hcheck⟩

/-- A signature is read from an answer exactly if the answer gives it. -/
theorem ofResponse_eq_ok_iff {answer : Response} {signature : Signature} :
    ofResponse answer = .ok signature ↔ signature.GivenBy answer := by
  constructor
  · intro h
    obtain ⟨hsuccess, members, hread, hcheck⟩ := exists_of_ofResponse h
    exact ⟨hsuccess, members, hread, check_eq_valid_iff.mp hcheck⟩
  · rintro ⟨hsuccess, members, hread, hheld⟩
    rw [ofResponse_eq hsuccess hread, check_eq_valid_iff.mpr hheld]

/-- An answer gives one signature at most. -/
theorem GivenBy.unique {answer : Response} {signature other : Signature}
    (h : signature.GivenBy answer) (hother : other.GivenBy answer) : other = signature :=
  Except.ok.inj ((ofResponse_eq_ok_iff.mpr hother).symm.trans (ofResponse_eq_ok_iff.mpr h))

/-- What keeps a success that is not nested too deeply from giving a signature is a wrong value. -/
theorem ofResponse_failsIn {answer : Response} (hsuccess : answer.status.isSuccess = true)
    (hshallow : ∀ container, Json.readBytes answer.body ≠ .error (.tooDeep container)) :
    FailsIn Failure.IsWrongValue (ofResponse answer) := by
  unfold ofResponse
  rw [hsuccess]
  refine .bind ?_ fun value => ?_
  · cases hread : Json.readBytes answer.body with
    | ok value => exact .ok value
    | error fault =>
      cases fault with
      | tooDeep container => exact absurd hread (hshallow container)
      | _ => exact .error ⟨rfl, rfl⟩
  · cases value with
    | obj members =>
      dsimp only
      split
      · exact .ok _
      · exact .error ⟨rfl, rfl⟩
    | _ => exact .error ⟨rfl, rfl⟩

/-- An answer that is no success is a refusal. -/
theorem ofResponse_of_not_isSuccess {answer : Response} (h : answer.status.isSuccess = false) :
    ofResponse answer = .error (.badStatus answer.status) := by
  unfold ofResponse
  rw [h]
  rfl

end Signature

/-! ## Listening to an answer -/

namespace Request

/-- How an answer to a request can go unheard. -/
inductive Unheard (r : Request) (answer : Response) : Prop
  /-- It sends the client on to what is no URL. -/
  | astray {location : String} {fault : Url.Fault} :
    r.CanTake answer →
    answer.location? = some location →
    r.place location = .error (.badUrl fault) →
    Unheard r answer
  /-- It cannot be taken in, though it gives a signature. -/
  | unread {signature : Signature} :
    ¬ r.CanTake answer →
    signature.GivenBy answer →
    Unheard r answer
  /-- It cannot be taken in, though it is a refusal that sends nobody on. -/
  | unsaid :
    ¬ r.CanTake answer →
    answer.status.isSuccess = false →
    answer.header? "location" = none →
    Unheard r answer

/-- An answer that can be taken in and is refused names a place. -/
theorem CanTake.location?_ne_none {r : Request} {answer : Response} {failure : Failure}
    (h : r.CanTake answer) (hfails : r.checkResponse answer = .error failure) :
    answer.location? ≠ none := by
  intro hnone
  rw [h.checkResponse_eq, hnone] at hfails
  cases hfails

/-- It goes unheard exactly if that place is no URL. -/
theorem CanTake.unheard_iff {r : Request} {answer : Response} (h : r.CanTake answer) :
    r.Unheard answer ↔ ∃ fault, r.checkResponse answer = .error (.badUrl fault) := by
  simp only [checkResponse_eq_badUrl]
  constructor
  · rintro (⟨⟨hheaders, horigin⟩, hlocation, hplace⟩ | ⟨hnot, -⟩ | ⟨hnot, -, -⟩)
    · exact ⟨_, hheaders, horigin, _, hlocation, hplace⟩
    · exact absurd h hnot
    · exact absurd h hnot
  · rintro ⟨fault, -, -, location, hlocation, hplace⟩
    exact .astray h hlocation hplace

/-- One that cannot be taken in is refused for a wrong value. -/
theorem checkResponse_of_not_canTake {r : Request} {answer : Response} (h : ¬ r.CanTake answer) :
    ∃ failure, r.checkResponse answer = .error failure ∧ failure.IsWrongValue := by
  rw [checkResponse_steps]
  split
  · case isTrue hheaders =>
    cases horigin : r.checkOrigin with
    | ok _ => exact absurd ⟨hheaders, horigin⟩ h
    | error failure =>
      refine ⟨failure, rfl, ?_⟩
      rw [Failure.IsWrongValue, r.checkOrigin_failsIn failure horigin]
      exact ⟨rfl, rfl⟩
  · exact ⟨_, rfl, rfl, rfl⟩

end Request

/-- An answer without a header for it sends nobody on. -/
theorem Response.location?_of_header? {answer : Response} (h : answer.header? "location" = none) :
    answer.location? = none := by
  unfold location?
  rw [h, ite_self]

namespace Signer

/-- A wrong value is reported as an answer that makes no sense. -/
theorem explain_of_isWrongValue (resource : Text) {failure : Failure} (h : failure.IsWrongValue) :
    explain resource failure = .signingMalformed failure := by
  unfold explain
  split
  · cases h.1
  · rw [if_neg (by rw [h.2]; decide), if_pos h.1]

/-- Whether what is returned and reported goes by an answer. -/
structure GoesBy (resource : Text) (answer : Response) (result : Except Failure String)
    (events : List Event) : Prop where
  /-- A text is returned exactly if the answer gives it with some key or none. -/
  returns : ∀ assertion, result = .ok assertion ↔ ∃ keyId, Signature.GivenBy ⟨keyId, assertion⟩ answer
  /-- A signature that is given is reported once, and nothing else is. -/
  reports : ∀ signature : Signature, signature.GivenBy answer →
    events = [.signed resource signature.keyId]
  /-- Without one nothing is reported, and there is a failure to sign. It says that the answer makes no
  sense if this is a success, and what the answer was if this is no success and sends nobody on. -/
  refuses : (∀ signature : Signature, ¬ signature.GivenBy answer) → events = [] ∧
    ∃ failure, result = .error failure ∧ failure.kind = .signing ∧
      (answer.status.isSuccess = true →
        failure.message = Text.ofString "Cannot sign JWT: malformed signJwt response") ∧
      (answer.status.isSuccess = false → answer.header? "location" = none →
        failure.message = Text.ofString
          ("Cannot sign JWT: IAM returned " ++ Decimal.text answer.status.code ++ " for ") ++ resource)

/-- What goes by an answer fails as a failure to sign. -/
theorem GoesBy.kind_eq {resource : Text} {answer : Response} {failure : Failure}
    {events : List Event} (h : GoesBy resource answer (.error failure) events) :
    failure.kind = .signing := by
  have hnone : ∀ signature : Signature, ¬ signature.GivenBy answer := by
    intro signature hgiven
    cases (h.returns signature.assertion).mpr ⟨signature.keyId, hgiven⟩
  obtain ⟨-, _, ⟨⟩, hkind, -⟩ := h.refuses hnone
  exact hkind

/-- A failure to sign goes by an answer that gives nothing, if it says what it should. -/
theorem GoesBy.error {resource : Text} {answer : Response} {failure : Failure}
    (hnone : ∀ signature : Signature, ¬ signature.GivenBy answer) (hkind : failure.kind = .signing)
    (hsuccess : answer.status.isSuccess = true →
      failure.message = Text.ofString "Cannot sign JWT: malformed signJwt response")
    (hrefusal : answer.status.isSuccess = false → answer.header? "location" = none →
      failure.message = Text.ofString
        ("Cannot sign JWT: IAM returned " ++ Decimal.text answer.status.code ++ " for ") ++ resource) :
    GoesBy resource answer (.error failure) [] where
  returns _ := ⟨nofun, fun ⟨_, hgiven⟩ => absurd hgiven (hnone _)⟩
  reports _ hgiven := absurd hgiven (hnone _)
  refuses _ := ⟨rfl, failure, rfl, hkind, hsuccess, hrefusal⟩

/-- A signature goes by the answer that gives it, if it is returned and reported. -/
theorem GoesBy.ok {resource : Text} {answer : Response} {signature : Signature}
    (hgiven : signature.GivenBy answer) :
    GoesBy resource answer (.ok signature.assertion) [.signed resource signature.keyId] where
  returns assertion := by
    constructor
    · rintro ⟨⟩
      exact ⟨signature.keyId, hgiven⟩
    · rintro ⟨keyId, hother⟩
      rw [← hgiven.unique hother]
  reports other hother := by rw [hgiven.unique hother]
  refuses hnone := absurd hgiven (hnone signature)

/-- What is read from an answer goes by it. -/
theorem goesBy_ofResponse (resource : Text) {answer : Response}
    (hshallow : ∀ container, Json.readBytes answer.body ≠ .error (.tooDeep container)) :
    GoesBy resource answer
      (((Signature.ofResponse answer).mapError (explain resource)).map Signature.assertion)
      (reported resource (Signature.ofResponse answer)) := by
  cases hread : Signature.ofResponse answer with
  | ok signature => exact .ok (Signature.ofResponse_eq_ok_iff.mp hread)
  | error failure =>
    have hnone : ∀ signature : Signature, ¬ signature.GivenBy answer := by
      intro signature hgiven
      rw [Signature.ofResponse_eq_ok_iff.mpr hgiven] at hread
      cases hread
    change GoesBy resource answer (.error (explain resource failure)) []
    cases hsuccess : answer.status.isSuccess with
    | true =>
      have hwrong := Signature.ofResponse_failsIn hsuccess hshallow failure hread
      rw [explain_of_isWrongValue resource hwrong]
      exact .error hnone rfl (fun _ => rfl) (by simp [hsuccess])
    | false =>
      obtain rfl : Failure.badStatus answer.status = failure :=
        Except.error.inj ((Signature.ofResponse_of_not_isSuccess hsuccess).symm.trans hread)
      exact .error hnone rfl (by simp [hsuccess]) (fun _ _ => rfl)

/-- What is heard of an answer to a request. -/
def heard (request : Request) (answer : Response) : Except Failure Signature :=
  request.checkResponse answer >>= fun _ => Signature.ofResponse answer

/-- Whether what is heard of an answer is returned and reported as the answer has it. -/
def HeedsAnswer (resource : Text) (request : Request) (answer : Response) : Prop :=
  GoesBy resource answer
    (((heard request answer).mapError (explain resource)).map Signature.assertion)
    (reported resource (heard request answer))

/-- The words for an answer that makes no sense are not those for a refusal. -/
theorem malformed_ne_refused (rest : Text) :
    Text.ofString "Cannot sign JWT: malformed signJwt response" ≠
      Text.ofString "Cannot sign JWT: IAM returned " ++ rest := by
  intro h
  have hfirst := congrArg (fun t : Text => t[17]?) h
  rw [List.getElem?_append_left (by decide)] at hfirst
  exact absurd hfirst (by decide)

/-- An answer that cannot be taken in is heeded unless there was something to be heard. -/
theorem heedsAnswer_iff_of_not_canTake (resource : Text) {request : Request} {answer : Response}
    (htake : ¬ request.CanTake answer) :
    HeedsAnswer resource request answer ↔ ¬ request.Unheard answer := by
  obtain ⟨failure, hfails, hwrong⟩ := Request.checkResponse_of_not_canTake htake
  rw [HeedsAnswer, heard, hfails, except_error_bind, mapError_error,
    explain_of_isWrongValue resource hwrong]
  constructor
  · rintro h (⟨hcan, -, -⟩ | ⟨-, hgiven⟩ | ⟨-, hrefusal, hlocation⟩)
    · exact htake hcan
    · cases (h.returns _).mpr ⟨_, hgiven⟩
    · obtain ⟨-, _, ⟨⟩, -, -, hmessage⟩ := h.refuses (Signature.not_givenBy hrefusal)
      have hsame := hmessage hrefusal hlocation
      rw [Text.ofString_append, Text.ofString_append, List.append_assoc, List.append_assoc] at hsame
      exact malformed_ne_refused _ hsame
  · intro h
    refine .error (fun signature hgiven => h (.unread htake hgiven)) rfl (fun _ => rfl) ?_
    exact fun hrefusal hlocation => absurd (.unsaid htake hrefusal hlocation) h

/-- An answer that can be taken in is heeded unless it sends the client on to what is no URL. -/
theorem heedsAnswer_iff_of_canTake (resource : Text) {request : Request} {answer : Response}
    (htake : request.CanTake answer)
    (hshallow : ∀ container, Json.readBytes answer.body ≠ .error (.tooDeep container)) :
    HeedsAnswer resource request answer ↔ ¬ request.Unheard answer := by
  rw [htake.unheard_iff, HeedsAnswer, heard]
  cases hchecked : request.checkResponse answer with
  | ok _ => exact ⟨fun _ => nofun, fun _ => goesBy_ofResponse resource hshallow⟩
  | error failure =>
    rw [except_error_bind, mapError_error]
    have hlocation : answer.location? ≠ none := htake.location?_ne_none hchecked
    have hrefusal : answer.status.isSuccess = false :=
      Bool.eq_false_iff.mpr fun hsuccess => hlocation (Response.location?_of_isSuccess hsuccess)
    rcases request.checkResponse_failsIn answer failure hchecked with hforeseen | ⟨fault, rfl⟩
    · constructor
      · rintro - ⟨fault, hfault⟩
        obtain rfl : failure = .badUrl fault := Except.error.inj hfault
        rcases hforeseen with h | h <;> cases h
      · intro _
        refine .error (Signature.not_givenBy hrefusal)
          ((explain_reports_iff resource failure).mpr hforeseen).1 ?_ ?_
        · exact fun hsuccess => absurd hsuccess (Bool.eq_false_iff.mp hrefusal)
        · exact fun _ habsent => absurd (Response.location?_of_header? habsent) hlocation
    · constructor
      · intro h
        cases h.kind_eq
      · exact fun h => absurd ⟨fault, rfl⟩ h

/-- A signer that always gives the same answer. -/
def answering (answer : Response) : Signer where
  address := "https://iam.example"
  endpoint := fun _ _ => .ok answer

/-- An answer with both names for the key and the assertion. -/
def twiceNamed : Response where
  status := ⟨201⟩
  headers := [("content-type", "application/json")]
  body := Utf8.encode (Json.render .body (.ofMembers [("key_id", Json.ofString "k"),
    ("signed_jwt", .int 1), ("keyId", .null), ("signedJwt", Json.ofString "j")])).toList

end Signer

end IamLogin
