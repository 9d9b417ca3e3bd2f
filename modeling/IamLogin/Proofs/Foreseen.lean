import IamLogin.Proofs.LogView

/-!
# Failures that nobody foresaw

A client puts two families of failures in its own words: there was no good answer, or a value is wrong.
A failure of any other family passes through as it is. If the service fails only in not giving a good
answer, there are three places from which such a failure comes: the posting has no URL, the answer sends
the client on to what turns out to be no URL, or the body of the answer is nested more deeply than the
reader goes.

How the body is read differs between the clients. What has to be known about it is that a reading which
does not end as it should was stopped by the nesting, and that the nesting stops every reading.
-/

namespace IamLogin

variable {α β ε : Type}

/-- Whether a failure is of a family that the clients put in their own words. -/
def Failure.IsForeseen (f : Failure) : Prop := f.kind.isHttp = true ∨ f.kind.isValue = true

/-- The kind of the failure in a result, if it is one. -/
def failureKind? : Except Failure α → Option Kind
  | .ok _ => none
  | .error failure => some failure.kind

/-- Whether a result is a failure of a kind can be computed. -/
theorem failureKind?_eq_some {result : Except Failure α} {kind : Kind} :
    failureKind? result = some kind ↔ ∃ failure, result = .error failure ∧ failure.kind = kind := by
  cases result <;> simp [failureKind?]

/-! ## Ways to fail -/

/-- Whether a computation fails in certain ways only. -/
def FailsIn (ways : Failure → Prop) (result : Except Failure α) : Prop :=
  ∀ failure, result = .error failure → ways failure

namespace FailsIn

variable {ways : Failure → Prop} {first : Except Failure α} {next : α → Except Failure β}

/-- A value fails in no way. -/
theorem ok (value : α) : FailsIn ways (Except.ok value) := by
  intro failure h
  cases h

/-- A failure fails in its own way. -/
theorem error {failure : Failure} (h : ways failure) :
    FailsIn ways (Except.error failure : Except Failure α) := by
  rintro _ ⟨⟩
  exact h

/-- More ways may be allowed. -/
theorem mono {ways' : Failure → Prop} (h : FailsIn ways first)
    (himp : ∀ failure, ways failure → ways' failure) : FailsIn ways' first :=
  fun failure hfailure => himp failure (h failure hfailure)

/-- Changing the value changes no failure. -/
theorem map (h : FailsIn ways first) (change : α → β) : FailsIn ways (first.map change) := by
  cases first with
  | ok value => exact .ok (change value)
  | error failure => exact .error (h failure rfl)

/-- A chain of two steps fails as the first does or as the second does. -/
theorem bind (hfirst : FailsIn ways first) (hnext : ∀ value, FailsIn ways (next value)) :
    FailsIn ways (first >>= next) := by
  cases first with
  | ok value => exact hnext value
  | error failure => exact .error (hfirst failure rfl)

/-- A failure that is put in other words is one of those that come of it. -/
theorem mapError {explain : ε → Failure} (h : ∀ fault, ways (explain fault))
    (result : Except ε α) : FailsIn ways (result.mapError explain) := by
  cases result with
  | ok value => exact .ok value
  | error fault => exact .error (h fault)

end FailsIn

/-! ## From the posting to the answer -/

/-- Whether a failure is foreseen, or is that a text is no URL. -/
def Failure.IsForeseenOrUrl (f : Failure) : Prop := f.IsForeseen ∨ ∃ fault, f = .badUrl fault

/-- Nobody is sent on by a status that names no other place. -/
theorem Response.location?_of_not_isRedirect {answer : Response}
    (h : answer.status.isRedirect = false) : answer.location? = none :=
  if_neg (Bool.eq_false_iff.mp h)

/-- A success sends nobody on. -/
theorem Response.location?_of_isSuccess {answer : Response} (h : answer.status.isSuccess = true) :
    answer.location? = none :=
  location?_of_not_isRedirect (Status.isRedirect_eq_false_of_isSuccess h)

namespace Request

/-- A search for a place fails as foreseen or finds a text that is no URL. -/
theorem place_failsIn (r : Request) (location : String) :
    FailsIn Failure.IsForeseenOrUrl (r.place location) := by
  have hurl : ∀ fault, (Failure.badUrl fault).IsForeseenOrUrl := fun fault => .inr ⟨fault, rfl⟩
  have hgiven : ∀ fault, (Failure.badRedirect fault).IsForeseenOrUrl := fun _ => .inl (.inl rfl)
  have hfragment : ∀ place : Url, FailsIn Failure.IsForeseenOrUrl
      (if !r.url.plainFragment.isEmpty && place.plainFragment.isEmpty then
        (place.withFragment r.url.plainFragment).mapError Failure.badUrl
      else .ok place) := by
    intro place
    split
    · exact .mapError hurl _
    · exact .ok place
  unfold place
  refine .bind (.mapError hgiven _) fun given => .bind (.mapError hurl _) fun given => ?_
  dsimp only
  split
  · exact hfragment given
  · split
    · exact .error (.inl (.inr rfl))
    · exact .bind (.mapError hurl _) hfragment

/-- What keeps a URL from being known as an origin is a wrong value. -/
theorem checkOrigin_failsIn (r : Request) :
    FailsIn (fun f => f.kind = .value) r.checkOrigin := by
  unfold checkOrigin
  dsimp only
  split
  · exact .error rfl
  · split
    · exact .error rfl
    · exact .ok ()

/-- An answer is checked in three steps: its headers, the origin, and the place that it names. -/
theorem checkResponse_steps (r : Request) (answer : Response) :
    r.checkResponse answer =
      if answer.headers.all (fun h => Posting.isSendable h.1 && Posting.isSendable h.2) = true then
        r.checkOrigin >>= fun _ =>
          match answer.location? with
          | none => .ok ()
          | some location => (r.place location).map fun _ => ()
      else .error .badHeader := by
  unfold checkResponse
  cases answer.headers.all fun h => Posting.isSendable h.1 && Posting.isSendable h.2 with
  | false => rfl
  | true =>
    cases r.checkOrigin with
    | error failure => rfl
    | ok _ =>
      cases answer.location? with
      | none => rfl
      | some location =>
        simp only [except_ok_bind]
        cases r.place location <;> rfl

/-- Whether an answer to a request can be taken in: its headers are sendable, and it is known where it
comes from. -/
def CanTake (r : Request) (answer : Response) : Prop :=
  answer.headers.all (fun h => Posting.isSendable h.1 && Posting.isSendable h.2) = true ∧
    r.checkOrigin = .ok ()

/-- An answer that can be taken in is refused for the place that it names, if it is. -/
theorem CanTake.checkResponse_eq {r : Request} {answer : Response} (h : r.CanTake answer) :
    r.checkResponse answer = match answer.location? with
      | none => .ok ()
      | some location => (r.place location).map fun _ => () := by
  rw [checkResponse_steps, if_pos h.1, h.2]
  rfl

/-- An answer that can be taken in and sends nobody on is not refused. -/
theorem CanTake.checkResponse_of_not_isRedirect {r : Request} {answer : Response}
    (h : r.CanTake answer) (hstays : answer.status.isRedirect = false) :
    r.checkResponse answer = .ok () := by
  rw [h.checkResponse_eq, Response.location?_of_not_isRedirect hstays]

/-- A success that can be taken in is not refused. -/
theorem CanTake.checkResponse_of_isSuccess {r : Request} {answer : Response} (h : r.CanTake answer)
    (hsuccess : answer.status.isSuccess = true) : r.checkResponse answer = .ok () :=
  h.checkResponse_of_not_isRedirect (Status.isRedirect_eq_false_of_isSuccess hsuccess)

/-- An answer is refused as foreseen or because it names a place that is no URL. -/
theorem checkResponse_failsIn (r : Request) (answer : Response) :
    FailsIn Failure.IsForeseenOrUrl (r.checkResponse answer) := by
  rw [checkResponse_steps]
  split
  · refine .bind (r.checkOrigin_failsIn.mono fun failure h => .inl (.inr (h ▸ rfl))) fun _ => ?_
    split
    · exact .ok ()
    · case h_2 location _ => exact (r.place_failsIn location).map _
  · exact .error (.inl (.inr rfl))

/-- An answer is refused for a text that is no URL if it names such a place and nothing else is wrong
with it. -/
theorem checkResponse_eq_badUrl {r : Request} {answer : Response} {fault : Url.Fault} :
    r.checkResponse answer = .error (.badUrl fault) ↔
      answer.headers.all (fun h => Posting.isSendable h.1 && Posting.isSendable h.2) = true ∧
      r.checkOrigin = .ok () ∧ ∃ location, answer.location? = some location ∧
        r.place location = .error (.badUrl fault) := by
  rw [checkResponse_steps]
  split
  · case isTrue hheaders =>
    cases horigin : r.checkOrigin with
    | error failure =>
      have hne : failure ≠ .badUrl fault := by
        rintro rfl
        cases r.checkOrigin_failsIn _ horigin
      simp [hne]
    | ok _ =>
      cases answer.location? with
      | none => simp
      | some location => cases hplace : r.place location <;> simp [hplace, hheaders, Except.map]
  · case isFalse hheaders => simp [hheaders]

/-- How the answer to a request can fail a client in a way that nobody foresaw. `reads` says whether
the client reads the body. -/
inductive Unforeseen (r : Request) (answer : Response) (reads : Prop) : Failure → Prop
  /-- The client is sent on to what is no URL. -/
  | astray {location : String} {fault : Url.Fault} :
    answer.headers.all (fun h => Posting.isSendable h.1 && Posting.isSendable h.2) = true →
    r.checkOrigin = .ok () →
    answer.location? = some location →
    r.place location = .error (.badUrl fault) →
    Unforeseen r answer reads (.badUrl fault)
  /-- The body is nested too deeply. -/
  | nested {container : Json.Container} :
    r.checkResponse answer = .ok () →
    reads →
    Json.readBytes answer.body = .error (.tooDeep container) →
    Unforeseen r answer reads (.badBody (.tooDeep container))

end Request

namespace Posting

/-- What comes of a posting to a service, if its answers are read in the given way. -/
def ask (p : Posting) (endpoint : Endpoint) (earlier : Nat) (read : Response → Except Failure α) :
    Except Failure α := do
  let request ← p.request
  let answer ← endpoint earlier request
  request.checkResponse answer
  read answer

/-- How asking a service can fail in a way that nobody foresaw. `reads` says of which answers the
body is read. -/
inductive Unforeseen (p : Posting) (endpoint : Endpoint) (earlier : Nat)
    (reads : Response → Prop) : Failure → Prop
  /-- The posting has no URL. -/
  | nowhere {fault : Url.Fault} :
    p.url = .error (.badUrl fault) →
    Unforeseen p endpoint earlier reads (.badUrl fault)
  /-- There is an answer, and it fails the client. -/
  | answered {request : Request} {answer : Response} {failure : Failure} :
    p.request = .ok request →
    endpoint earlier request = .ok answer →
    request.Unforeseen answer (reads answer) failure →
    Unforeseen p endpoint earlier reads failure

/-- What nobody foresaw is a text that is no URL or the nesting. -/
theorem Unforeseen.kind {p : Posting} {endpoint : Endpoint} {earlier : Nat}
    {reads : Response → Prop} {failure : Failure} (h : p.Unforeseen endpoint earlier reads failure) :
    failure.kind = .invalidUrl ∨ failure.kind = .recursion := by
  cases h with
  | nowhere _ => exact .inl rfl
  | answered _ _ h =>
    cases h with
    | astray _ _ _ _ => exact .inl rfl
    | nested _ _ _ => exact .inr rfl

/-- What is wrong with a text that has a lone half is foreseen, or the text is no URL anyway. -/
theorem brokenUrl_isForeseenOrUrl (t : Text) : (brokenUrl t).IsForeseenOrUrl := by
  unfold brokenUrl
  split
  · exact .inr ⟨_, rfl⟩
  · exact .inl (.inr rfl)

/-- A posting has a URL, or it has none for a foreseen reason, or something in it is no URL. -/
theorem url_failsIn (p : Posting) : FailsIn Failure.IsForeseenOrUrl p.url := by
  have hurl : ∀ fault, (Failure.badUrl fault).IsForeseenOrUrl := fun fault => .inr ⟨fault, rfl⟩
  have hbase : FailsIn Failure.IsForeseenOrUrl (base p.address) := by
    unfold base
    split
    · exact .mapError hurl _
    · exact .error (brokenUrl_isForeseenOrUrl _)
  refine .bind hbase fun base => ?_
  unfold place
  split
  · exact .mapError hurl _
  · exact .error (brokenUrl_isForeseenOrUrl _)

/-- A request is not made for a foreseen reason or because the posting has no URL. -/
theorem request_failsIn (p : Posting) :
    FailsIn (fun f => f.IsForeseen ∨ ∃ fault, f = .badUrl fault ∧ p.url = .error f) p.request := by
  rw [request_eq]
  cases hurl : p.url with
  | error cause =>
    rcases p.url_failsIn cause hurl with hforeseen | ⟨fault, rfl⟩
    · exact .error (.inl hforeseen)
    · exact .error (.inr ⟨fault, rfl, rfl⟩)
  | ok url =>
    rw [except_ok_bind]
    split
    · split
      · exact .ok _
      · exact .error (.inl (.inr rfl))
    · exact .error (.inl (.inr rfl))

/-- What comes of a posting is read from what comes of its request. -/
theorem ask_eq (p : Posting) (endpoint : Endpoint) (earlier : Nat)
    (read : Response → Except Failure α) :
    p.ask endpoint earlier read =
      p.request >>= fun request => request.outcome endpoint earlier >>= read := by
  unfold ask Request.outcome
  refine congrArg (p.request >>= ·) (funext fun request => ?_)
  cases endpoint earlier request with
  | error failure => rfl
  | ok answer =>
    simp only [except_ok_bind]
    cases request.checkResponse answer <;> rfl

/-- A request that is answered comes to what is read from the answer. -/
theorem ask_of_answer {p : Posting} {endpoint : Endpoint} {earlier : Nat} {request : Request}
    {answer : Response} (hrequest : p.request = .ok request)
    (hanswer : endpoint earlier request = .ok answer) (read : Response → Except Failure α) :
    p.ask endpoint earlier read = request.checkResponse answer >>= fun _ => read answer := by
  unfold ask
  rw [hrequest, except_ok_bind, hanswer, except_ok_bind]

end Posting

/-! ## Reading the answer -/

/-- What has to be known of a way to read answers. `reads` says of which answers the body is read, and
`fits` which failures are as they should be. -/
structure Reading (read : Response → Except Failure α) (reads : Response → Prop)
    (fits : Failure → Prop) : Prop where
  /-- A failure that is foreseen is as it should be. -/
  foreseen : ∀ failure, failure.IsForeseen → fits failure
  /-- A text that is no URL is not. -/
  badUrl : ∀ fault, ¬ fits (.badUrl fault)
  /-- Nor is a body that is nested too deeply. -/
  tooDeep : ∀ container, ¬ fits (.badBody (.tooDeep container))
  /-- A reading that does not end as it should was stopped by the nesting. -/
  fails : ∀ answer, FailsIn
    (fun f => fits f ∨ ∃ container, f = .badBody (.tooDeep container) ∧ reads answer ∧
      Json.readBytes answer.body = .error (.tooDeep container)) (read answer)
  /-- The nesting stops the reading. -/
  stops : ∀ answer container, reads answer →
    Json.readBytes answer.body = .error (.tooDeep container) →
    read answer = .error (.badBody (.tooDeep container))

namespace Reading

variable {read : Response → Except Failure α} {reads : Response → Prop} {fits : Failure → Prop}

/-- What comes of an answer does not end as it should exactly if nobody foresaw it. -/
theorem answer_iff (h : Reading read reads fits) (request : Request) (answer : Response)
    (failure : Failure) :
    (request.checkResponse answer >>= fun _ => read answer) = .error failure ∧ ¬ fits failure ↔
      request.Unforeseen answer (reads answer) failure := by
  constructor
  · rintro ⟨hfails, hfit⟩
    cases hcheck : request.checkResponse answer with
    | error cause =>
      rw [hcheck] at hfails
      obtain rfl : cause = failure := Except.error.inj hfails
      rcases request.checkResponse_failsIn answer cause hcheck with hforeseen | ⟨fault, rfl⟩
      · exact absurd (h.foreseen cause hforeseen) hfit
      · obtain ⟨hheaders, horigin, location, hlocation, hplace⟩ :=
          Request.checkResponse_eq_badUrl.mp hcheck
        exact .astray hheaders horigin hlocation hplace
    | ok _ =>
      rw [hcheck] at hfails
      rcases h.fails answer failure hfails with hfits | ⟨container, rfl, hreads, hdeep⟩
      · exact absurd hfits hfit
      · exact .nested hcheck hreads hdeep
  · intro hunforeseen
    cases hunforeseen with
    | astray hheaders horigin hlocation hplace =>
      have hcheck := Request.checkResponse_eq_badUrl.mpr
        ⟨hheaders, horigin, _, hlocation, hplace⟩
      rw [hcheck]
      exact ⟨rfl, h.badUrl _⟩
    | nested hcheck hreads hdeep =>
      rw [hcheck]
      exact ⟨h.stops answer _ hreads hdeep, h.tooDeep _⟩

/-- Asking does not end as it should exactly if nobody foresaw how it ends, as far as the service fails
only in not giving a good answer. -/
theorem ask_iff (h : Reading read reads fits) (p : Posting) {endpoint : Endpoint} {earlier : Nat}
    (hendpoint : ∀ request failure, endpoint earlier request = .error failure →
      failure.kind.isHttp = true) (failure : Failure) :
    p.ask endpoint earlier read = .error failure ∧ ¬ fits failure ↔
      p.Unforeseen endpoint earlier reads failure := by
  constructor
  · rintro ⟨hfails, hfit⟩
    cases hrequest : p.request with
    | error cause =>
      rw [Posting.ask, hrequest] at hfails
      obtain rfl : cause = failure := Except.error.inj hfails
      rcases p.request_failsIn cause hrequest with hforeseen | ⟨fault, rfl, hurl⟩
      · exact absurd (h.foreseen cause hforeseen) hfit
      · exact .nowhere hurl
    | ok request =>
      cases hanswer : endpoint earlier request with
      | error cause =>
        rw [Posting.ask, hrequest, except_ok_bind, hanswer] at hfails
        obtain rfl : cause = failure := Except.error.inj hfails
        exact absurd (h.foreseen cause (.inl (hendpoint request cause hanswer))) hfit
      | ok answer =>
        rw [Posting.ask_of_answer hrequest hanswer] at hfails
        exact .answered hrequest hanswer ((h.answer_iff request answer failure).mp ⟨hfails, hfit⟩)
  · intro hunforeseen
    cases hunforeseen with
    | nowhere hurl =>
      rw [Posting.ask, Posting.request_eq, hurl]
      exact ⟨rfl, h.badUrl _⟩
    | answered hrequest hanswer hfails =>
      rw [Posting.ask_of_answer hrequest hanswer]
      exact (h.answer_iff _ _ failure).mpr hfails

end Reading

end IamLogin
