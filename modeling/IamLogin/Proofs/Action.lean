import IamLogin.Http.Client

/-!
# Running actions

What an action does to a journal is read off its parts: each of the combinators that actions are
made of has one equation here, and proofs about actions use these and never open the monad. From
them follows what becomes of a posting, the one step by which all services are asked.
-/

namespace IamLogin

variable {ε ε' α β : Type}

/-- What succeeds hands its value on. -/
@[simp] theorem except_ok_bind (value : α) (next : α → Except ε β) :
    (Except.ok value >>= next) = next value := rfl

/-- What fails goes no further. -/
@[simp] theorem except_error_bind (error : ε) (next : α → Except ε β) :
    (Except.error error >>= next) = .error error := rfl

/-- A value has no failure to explain. -/
@[simp] theorem mapError_ok (explain : ε → ε') (value : α) :
    (Except.ok value : Except ε α).mapError explain = .ok value := rfl

/-- A failure is explained. -/
@[simp] theorem mapError_error (explain : ε → ε') (error : ε) :
    (Except.error error : Except ε α).mapError explain = .error (explain error) := rfl

/-- A chain of two steps succeeds exactly when both do. -/
theorem except_bind_eq_ok {first : Except ε α} {next : α → Except ε β} {result : β} :
    first >>= next = .ok result ↔ ∃ value, first = .ok value ∧ next value = .ok result := by
  cases first <;> simp

/-- Whether a result is a success of which something is true can be computed. -/
theorem toOption_map_eq_some {result : Except ε α} {f : α → β} {b : β} :
    result.toOption.map f = some b ↔ ∃ value, result = .ok value ∧ f value = b := by
  cases result <;> simp [Except.toOption]

/-- Whether a result is a given success can be computed. -/
theorem toOption_eq_some {result : Except ε α} {value : α} :
    result.toOption = some value ↔ result = .ok value := by
  cases result <;> simp [Except.toOption]

/-- Whether a result is a failure can be computed. -/
theorem toOption_eq_none {result : Except ε α} :
    result.toOption = none ↔ ∃ error, result = .error error := by
  cases result <;> simp [Except.toOption]

namespace Action

/-- A value leaves no entries. -/
@[simp] theorem after_pure (value : α) (journal : Journal) :
    (pure value : Action α).after journal = (.ok value, journal) := rfl

/-- A failure leaves no entries. -/
@[simp] theorem after_throw (failure : Failure) (journal : Journal) :
    (throw failure : Action α).after journal = (.error failure, journal) := rfl

/-- The journal can be looked at. -/
@[simp] theorem after_get (journal : Journal) :
    (get : Action Journal).after journal = (.ok journal, journal) := rfl

/-- Recording adds one entry at the end. -/
@[simp] theorem after_record (effect : Effect) (journal : Journal) :
    (record effect).after journal = (.ok (), journal ++ [effect]) := rfl

/-- Reporting adds one event at the end. -/
@[simp] theorem after_report (event : Event) (journal : Journal) :
    (report event).after journal = (.ok (), journal ++ [.event event]) := rfl

/-- A result that is known leaves no entries. -/
@[simp] theorem after_ofExcept (result : Except Failure α) (journal : Journal) :
    (ofExcept result).after journal = (result, journal) := by
  cases result <;> rfl

/-- What follows an action runs on its result and its journal, unless it fails. -/
theorem after_bind (first : Action α) (next : α → Action β) (journal : Journal) :
    (first >>= next).after journal =
      match first.after journal with
      | (.ok value, later) => (next value).after later
      | (.error failure, later) => (.error failure, later) := by
  simp only [after, ExceptT.run_bind, StateT.run_bind]
  rcases (ExceptT.run first).run journal with ⟨result, later⟩
  cases result <;> rfl

/-- A result that is only changed leaves the journal alone. -/
theorem after_map (change : α → β) (action : Action α) (journal : Journal) :
    (change <$> action).after journal =
      ((action.after journal).1.map change, (action.after journal).2) := by
  rw [← bind_pure_comp, after_bind]
  rcases action.after journal with ⟨result, later⟩
  cases result <;> rfl

/-- A handler runs on the journal that the failed action leaves. -/
theorem after_tryCatch (action : Action α) (handler : Failure → Action α) (journal : Journal) :
    (tryCatch action handler).after journal =
      match action.after journal with
      | (.ok value, later) => (.ok value, later)
      | (.error failure, later) => (handler failure).after later := by
  simp only [after, ExceptT.run_tryCatch, StateT.run_bind]
  rcases (ExceptT.run action).run journal with ⟨result, later⟩
  cases result <;> rfl

/-- A failure that is only put in other words leaves the journal alone. -/
theorem after_tryCatch_throw (action : Action α) (explain : Failure → Failure)
    (journal : Journal) :
    (tryCatch action fun failure => throw (explain failure)).after journal =
      ((action.after journal).1.mapError explain, (action.after journal).2) := by
  rw [after_tryCatch]
  rcases action.after journal with ⟨result, later⟩
  cases result <;> rfl

end Action

namespace Request

/-- What comes of a request: the answer of the endpoint, unless something is wrong with it. -/
def outcome (r : Request) (endpoint : Endpoint) (earlier : Nat) : Except Failure Response := do
  let answer ← endpoint earlier r
  r.checkResponse answer
  return answer

end Request

/-- A posting that makes no request leaves the journal alone, and any other leaves one request. -/
theorem Posting.send_after (p : Posting) (service : Service) (endpoint : Endpoint)
    (journal : Journal) :
    (p.send service endpoint).after journal =
      match p.request with
      | .error failure => (.error failure, journal)
      | .ok request =>
        (request.outcome endpoint (journal.requestsTo service).length,
          journal ++ [.request service request]) := by
  unfold send
  cases hrequest : p.request with
  | error failure => simp [Action.after_bind]
  | ok request =>
    simp only [Action.after_bind, Action.after_ofExcept, Action.after_get, Action.after_record,
      Request.outcome]
    cases endpoint (journal.requestsTo service).length request with
    | error failure => rfl
    | ok answer =>
      simp only [except_ok_bind]
      cases request.checkResponse answer <;> rfl

end IamLogin
