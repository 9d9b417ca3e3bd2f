import IamLogin.Proofs.Action

/-!
# Two actions side by side

A statement about what cannot be learned from a run compares two runs. Two actions are coupled under a
view if, after journals that look the same, both succeed or both fail, with values or failures that are
alike, and leave journals that look the same. There is one rule for each of the combinators that actions
are made of, so that a coupling follows the text of an action, and only what is outside it, the answers
of services and the accessors of the caller, has to be compared by itself.
-/

namespace IamLogin

variable {α β α' β' : Type}

/-- What one party sees of a run. -/
structure View where
  /-- What there is to be seen of an effect. -/
  Sight : Type
  /-- What is seen of an effect. -/
  look : Effect → Sight
  /-- Which failures are not told apart. -/
  failures : Failure → Failure → Prop

/-- Whether two outcomes are alike: both are values that are alike, or both are failures that are
alike. -/
inductive Alike (failures : Failure → Failure → Prop) (values : α → β → Prop) :
    Except Failure α → Except Failure β → Prop
  /-- Both succeed. -/
  | ok {a : α} {b : β} : values a b → Alike failures values (.ok a) (.ok b)
  /-- Both fail. -/
  | error {f g : Failure} : failures f g → Alike failures values (.error f) (.error g)

namespace Alike

variable {failures : Failure → Failure → Prop} {values : α → β → Prop}

/-- An outcome is like itself if each value and each failure is like itself. -/
theorem refl {failures : Failure → Failure → Prop} {values : α → α → Prop}
    (hfailures : ∀ f, failures f f) (hvalues : ∀ a, values a a) (outcome : Except Failure α) :
    Alike failures values outcome outcome := by
  cases outcome with
  | ok a => exact .ok (hvalues a)
  | error f => exact .error (hfailures f)

/-- What is alike in more respects is alike in fewer. -/
theorem mono {failures' : Failure → Failure → Prop} {values' : α → β → Prop}
    {x : Except Failure α} {y : Except Failure β} (h : Alike failures values x y)
    (hfailures : ∀ f g, failures f g → failures' f g) (hvalues : ∀ a b, values a b → values' a b) :
    Alike failures' values' x y := by
  cases h with
  | ok h => exact .ok (hvalues _ _ h)
  | error h => exact .error (hfailures _ _ h)

/-- Every outcome is like itself in every respect. -/
theorem rfl {x : Except Failure α} : Alike Eq Eq x x :=
  refl Eq.refl Eq.refl x

/-- Outcomes that are alike in every respect are the same. -/
theorem eq {x y : Except Failure α} (h : Alike Eq Eq x y) : x = y := by
  cases h with
  | ok hvalues => rw [hvalues]
  | error hfailures => rw [hfailures]

end Alike

/-- Whether two actions cannot be told apart under a view, but for what they give. -/
def Coupled (view : View) (values : α → β → Prop) (x : Action α) (y : Action β) : Prop :=
  ∀ before before' : Journal, before.map view.look = before'.map view.look →
    Alike view.failures values (x.after before).1 (y.after before').1 ∧
      (x.after before).2.map view.look = (y.after before').2.map view.look

namespace Coupled

variable {view : View} {values : α → β → Prop} {results : α' → β' → Prop}

/-- Alike values are coupled. -/
theorem pure {a : α} {b : β} (h : values a b) :
    Coupled view values (Pure.pure a : Action α) (Pure.pure b : Action β) := by
  intro before before' hbefore
  rw [Action.after_pure, Action.after_pure]
  exact ⟨.ok h, hbefore⟩

/-- Alike failures are coupled. -/
theorem throw {f g : Failure} (h : view.failures f g) :
    Coupled view values (throw f : Action α) (throw g : Action β) := by
  intro before before' hbefore
  rw [Action.after_throw, Action.after_throw]
  exact ⟨.error h, hbefore⟩

/-- Alike results are coupled. -/
theorem ofExcept {x : Except Failure α} {y : Except Failure β}
    (h : Alike view.failures values x y) :
    Coupled view values (Action.ofExcept x) (Action.ofExcept y) := by
  intro before before' hbefore
  rw [Action.after_ofExcept, Action.after_ofExcept]
  exact ⟨h, hbefore⟩

/-- Journals that look the same are read. -/
theorem get :
    Coupled view (fun journal journal' => journal.map view.look = journal'.map view.look)
      (MonadState.get : Action Journal) (MonadState.get : Action Journal) := by
  intro before before' hbefore
  exact ⟨.ok hbefore, hbefore⟩

/-- Entries that look the same are made. -/
theorem record {effect effect' : Effect} (h : view.look effect = view.look effect') :
    Coupled view (fun _ _ => True) (Action.record effect) (Action.record effect') := by
  intro before before' hbefore
  rw [Action.after_record, Action.after_record]
  refine ⟨.ok trivial, ?_⟩
  rw [List.map_append, List.map_append, hbefore, List.map_singleton, List.map_singleton, h]

/-- Reporting an event is coupled with itself. -/
theorem report (event : Event) :
    Coupled view (fun _ _ => True) (Action.report event) (Action.report event) :=
  record rfl

/-- One action after another. -/
theorem bind {x : Action α} {y : Action β} {f : α → Action α'} {g : β → Action β'}
    (h : Coupled view values x y)
    (hnext : ∀ a b, values a b → Coupled view results (f a) (g b)) :
    Coupled view results (x >>= f) (y >>= g) := by
  intro before before' hbefore
  obtain ⟨houtcome, hafter⟩ := h before before' hbefore
  rw [Action.after_bind, Action.after_bind]
  generalize x.after before = first at houtcome hafter ⊢
  generalize y.after before' = second at houtcome hafter ⊢
  obtain ⟨outcome, later⟩ := first
  obtain ⟨outcome', later'⟩ := second
  cases houtcome with
  | ok hvalues => exact hnext _ _ hvalues later later' hafter
  | error hfailures => exact ⟨.error hfailures, hafter⟩

/-- An action with a handler for its failures. -/
theorem tryCatch {x : Action α} {y : Action β} {f : Failure → Action α} {g : Failure → Action β}
    (h : Coupled view values x y)
    (hhandler : ∀ e e', view.failures e e' → Coupled view values (f e) (g e')) :
    Coupled view values (tryCatch x f) (tryCatch y g) := by
  intro before before' hbefore
  obtain ⟨houtcome, hafter⟩ := h before before' hbefore
  rw [Action.after_tryCatch, Action.after_tryCatch]
  generalize x.after before = first at houtcome hafter ⊢
  generalize y.after before' = second at houtcome hafter ⊢
  obtain ⟨outcome, later⟩ := first
  obtain ⟨outcome', later'⟩ := second
  cases houtcome with
  | ok hvalues => exact ⟨.ok hvalues, hafter⟩
  | error hfailures => exact hhandler _ _ hfailures later later' hafter

/-- An action whose value is only changed. -/
theorem map {x : Action α} {y : Action β} {f : α → α'} {g : β → β'} (h : Coupled view values x y)
    (hchange : ∀ a b, values a b → results (f a) (g b)) :
    Coupled view results (f <$> x) (g <$> y) := by
  rw [← bind_pure_comp, ← bind_pure_comp]
  exact bind h fun a b hvalues => pure (hchange a b hvalues)

end Coupled

/-! ## Asking a service -/

/-- A view that shows how often each party was asked, and tells no failure from itself. -/
structure View.Counts (view : View) : Prop where
  /-- The requests to each service are seen. -/
  requestsTo : ∀ {before before' : Journal}, before.map view.look = before'.map view.look →
    ∀ service, (before.requestsTo service).length = (before'.requestsTo service).length
  /-- The readings of the clock are seen. -/
  clockReads : ∀ {before before' : Journal}, before.map view.look = before'.map view.look →
    before.clockReads = before'.clockReads
  /-- A failure is like itself. -/
  refl : ∀ f, view.failures f f

/-- Whether two services react to requests that are alike with outcomes that are alike. -/
def Endpoint.Alike (failures : Failure → Failure → Prop) (requests : Request → Request → Prop)
    (answers : Response → Response → Prop) (endpoint endpoint' : Endpoint) : Prop :=
  ∀ earlier r r', requests r r' →
    IamLogin.Alike failures answers (endpoint earlier r) (endpoint' earlier r')

/-- Whether an answer is checked depends on where the request went and on what stands before the
body. -/
theorem Request.checkResponse_eq {r r' : Request} {a a' : Response} (hurl : r.url = r'.url)
    (hstatus : a.status = a'.status) (hheaders : a.headers = a'.headers) :
    r.checkResponse a = r'.checkResponse a' := by
  have hlocation : a.location? = a'.location? := by
    unfold Response.location? Response.header?
    rw [hstatus, hheaders]
  have horigin : r.checkOrigin = r'.checkOrigin := by
    unfold checkOrigin
    rw [hurl]
  have hplace : ∀ location, r.place location = r'.place location := by
    intro location
    unfold place
    rw [hurl]
  unfold checkResponse
  rw [hheaders, hlocation, horigin]
  simp only [hplace]

/-- Postings with requests that are alike, to services that react alike, are coupled. -/
theorem Coupled.send {view : View} (hcounts : view.Counts) {p p' : Posting} (service : Service)
    {endpoint endpoint' : Endpoint} {requests : Request → Request → Prop}
    {answers : Response → Response → Prop}
    (hrequest : Alike view.failures requests p.request p'.request)
    (hlook : ∀ r r', requests r r' →
      r.url = r'.url ∧ view.look (.request service r) = view.look (.request service r'))
    (hendpoint : Endpoint.Alike view.failures requests answers endpoint endpoint')
    (hanswers : ∀ a a', answers a a' → a.status = a'.status ∧ a.headers = a'.headers) :
    Coupled view answers (p.send service endpoint) (p'.send service endpoint') := by
  refine bind (ofExcept hrequest) fun r r' hrequests => ?_
  refine bind get fun before before' hbefore => ?_
  refine bind (record (hlook r r' hrequests).2) fun _ _ _ => ?_
  rw [hcounts.requestsTo hbefore service]
  refine bind (ofExcept (hendpoint _ r r' hrequests)) fun a a' ha => ?_
  obtain ⟨hstatus, hheaders⟩ := hanswers a a' ha
  rw [Request.checkResponse_eq (hlook r r' hrequests).1 hstatus hheaders]
  have hchecked : Alike view.failures (fun _ _ => True) (r'.checkResponse a') (r'.checkResponse a') :=
    Alike.refl hcounts.refl (fun _ => trivial) _
  refine bind (ofExcept hchecked) fun _ _ _ => ?_
  exact pure ha

end IamLogin
