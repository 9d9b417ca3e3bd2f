import IamLogin.Proofs.Coupling
import IamLogin.Proofs.Posting
import IamLogin.Session

/-!
# What the log shows of a run

Whoever reads the log sees the events, and may know how often each party was asked, but neither what
was sent nor what was handed over. Of a failure the log shows the kind at most. Every failure that is
put in other words on its way to the log gets a kind that depends on the kind it had, so failures that
look the same go on to look the same.
-/

namespace IamLogin

/-- What is left of an effect without the contents of requests and assertions. -/
inductive Glimpse where
  /-- The supplier was asked for a credential. -/
  | inquiry
  /-- A lookup was made for a credential. -/
  | lookup
  /-- The clock was read. -/
  | clockRead
  /-- Some request was sent. -/
  | request (service : Service)
  /-- Some assertion was handed over. -/
  | handover
  /-- An event was reported. -/
  | event (event : Event)
deriving DecidableEq, Repr

/-- What is left of an effect. -/
def Effect.glimpse : Effect → Glimpse
  | .inquiry => .inquiry
  | .lookup => .lookup
  | .clockRead => .clockRead
  | .request service _ => .request service
  | .handover .. => .handover
  | .event e => .event e

/-- Whether two failures are of one kind. -/
def Failure.SameKind (f g : Failure) : Prop := f.kind = g.kind

/-- A failure is of its own kind. -/
theorem Failure.SameKind.refl (f : Failure) : f.SameKind f := rfl

/-- The view of whoever reads the log. -/
def logView : View where
  Sight := Glimpse
  look := Effect.glimpse
  failures := Failure.SameKind

/-! ## What can be counted -/

namespace Journal

variable {before before' : Journal}

/-- The requests to a service can be counted by a glimpse. -/
theorem requestsTo_length (service : Service) (journal : Journal) :
    (journal.requestsTo service).length =
      (journal.map Effect.glimpse).count (.request service) := by
  induction journal with
  | nil => rfl
  | cons effect rest ih =>
    rw [List.map_cons, List.count_cons, ← ih]
    cases effect with
    | request s r =>
      by_cases hs : s = service <;> simp [requestsTo, Effect.glimpse, hs]
    | _ => simp [requestsTo, Effect.glimpse]

/-- The clock readings can be counted by a glimpse. -/
theorem clockReads_eq (journal : Journal) :
    journal.clockReads = (journal.map Effect.glimpse).count .clockRead := by
  induction journal with
  | nil => rfl
  | cons effect rest ih =>
    rw [List.map_cons, List.count_cons, ← ih]
    cases effect <;> simp [clockReads, Effect.glimpse]

/-- The handovers can be counted by a glimpse. -/
theorem handovers_eq (journal : Journal) :
    Transport.handovers journal = (journal.map Effect.glimpse).count .handover := by
  induction journal with
  | nil => rfl
  | cons effect rest ih =>
    rw [List.map_cons, List.count_cons, ← ih]
    cases effect <;> simp [Transport.handovers, Effect.glimpse]

/-- Journals that look the same have the same events. -/
theorem events_eq (h : before.map Effect.glimpse = before'.map Effect.glimpse) :
    before.events = before'.events := by
  have hread : ∀ journal : Journal, journal.events =
      (journal.map Effect.glimpse).filterMap fun
        | .event event => some event
        | _ => none := by
    intro journal
    rw [List.filterMap_map]
    refine congrArg (fun f => List.filterMap f journal) (funext fun effect => ?_)
    cases effect <;> rfl
  rw [hread, hread, h]

end Journal

/-- The view of the log shows how often each thing was done. -/
theorem logView_counts : logView.Counts where
  requestsTo h service := by
    rw [Journal.requestsTo_length, Journal.requestsTo_length]
    exact congrArg (List.count _) h
  clockReads h := by
    rw [Journal.clockReads_eq, Journal.clockReads_eq]
    exact congrArg (List.count _) h
  refl := Failure.SameKind.refl

/-! ## Failures in other words -/

/-- A failure to get a signature is of the kind for that, unless it was of a kind that nobody
foresaw. -/
theorem Signer.kind_explain (resource : Text) (failure : Failure) :
    (Signer.explain resource failure).kind =
      if failure.kind.isHttp || failure.kind.isValue then .signing else failure.kind := by
  unfold Signer.explain
  split
  · rfl
  · cases hhttp : failure.kind.isHttp with
    | true => rfl
    | false => cases hvalue : failure.kind.isValue <;> rfl

/-- A failure to get a token is of the kind for that, unless it was of a kind that nobody foresaw. -/
theorem Vault.kind_explain (method : Text) (failure : Failure) :
    (Vault.explain method failure).kind =
      if failure.kind.isHttp || failure.kind.isValue then .authentication else failure.kind := by
  unfold Vault.explain
  cases hhttp : failure.kind.isHttp with
  | true => rfl
  | false => cases hvalue : failure.kind.isValue <;> rfl

/-- A failed login is reported by one kind of failure, or one like it. -/
theorem Session.kind_explain (failure : Failure) :
    (Session.explain failure).kind =
      if failure.kind.isAuthentication then failure.kind else .authentication := by
  unfold Session.explain
  cases hkind : failure.kind.isAuthentication <;> rfl

namespace Failure.SameKind

variable {f g : Failure}

/-- The signer explains failures of one kind by failures of one kind. -/
theorem signer_explain (h : f.SameKind g) (resource : Text) :
    (Signer.explain resource f).SameKind (Signer.explain resource g) := by
  unfold SameKind at h ⊢
  rw [Signer.kind_explain, Signer.kind_explain, h]

/-- The vault explains failures of one kind by failures of one kind. -/
theorem vault_explain (h : f.SameKind g) (method : Text) :
    (Vault.explain method f).SameKind (Vault.explain method g) := by
  unfold SameKind at h ⊢
  rw [Vault.kind_explain, Vault.kind_explain, h]

/-- The session explains failures of one kind by failures of one kind. -/
theorem session_explain (h : f.SameKind g) : (Session.explain f).SameKind (Session.explain g) := by
  unfold SameKind at h ⊢
  rw [Session.kind_explain, Session.kind_explain, h]

/-- Failed logins with failures of one kind are logged in the same way. -/
theorem failureEvent_eq (h : f.SameKind g) (o : Options) :
    Session.failureEvent o f = Session.failureEvent o g := by
  unfold Session.failureEvent
  rw [h]

end Failure.SameKind

end IamLogin
