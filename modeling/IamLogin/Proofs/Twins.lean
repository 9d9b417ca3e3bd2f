import IamLogin.Proofs.Run
import IamLogin.Proofs.Secrets
import Mathlib.Data.List.Forall2

/-!
# Two sessions side by side

Twins are sessions with the same options and clocks, and with credentials that differ in the token at
most; who signs and who exchanges may be others. Twins find out the same ids and read the same times. So
if their signers and transports cannot be told apart under a view, neither can their calls, and then
neither can their runs: call by call, what one run does is what the other does, as far as it is seen.
-/

namespace IamLogin

/-- Options without the supplier, who is asked when a session is opened and not later. -/
def Options.withoutSupplier (o : Options) : Options := { o with supplier := none }

/-- Whether two calls that were made cannot be told apart under a view, but for what they give. -/
structure Made.Coupled (view : View) (values : Answer → Answer → Prop) (made made' : Made) :
    Prop where
  /-- They asked for the same. -/
  call : made.call = made'.call
  /-- They came after journals that look the same. -/
  before : made.before.map view.look = made'.before.map view.look
  /-- Both give what is alike, or both fail in ways that are alike. -/
  result : Alike view.failures values made.result made'.result
  /-- Their entries look the same. -/
  entries : made.entries.map view.look = made'.entries.map view.look

namespace Session

/-- Whether two sessions have the same options and clocks, and credentials that differ in the token at
most. -/
structure Twins (s t : Session) : Prop where
  /-- The options are the same. -/
  options : s.options.withoutSupplier = t.options.withoutSupplier
  /-- The accessors look past the token. -/
  accessors : ∀ accessor, s.options.project = some accessor ∨ s.options.account = some accessor →
    accessor.IgnoresToken
  /-- The credentials differ in the token at most. -/
  credential : s.credential.map Credential.withoutToken = t.credential.map Credential.withoutToken
  /-- The clock of the system shows the same. -/
  systemTime : s.systemTime = t.systemTime

variable {s t : Session} {view : View}

namespace Twins

/-- The options agree in all that is used after a session is opened. -/
theorem options_eq (h : s.Twins t) :
    s.options.role = t.options.role ∧ s.options.mountPath = t.options.mountPath ∧
      s.options.validity = t.options.validity ∧ s.options.account = t.options.account ∧
      s.options.project = t.options.project ∧ s.options.clock = t.options.clock := by
  simpa only [Options.withoutSupplier, Options.mk.injEq, true_and] using h.options

/-- The clocks are read at the same times and show the same. -/
theorem readClock_coupled (h : s.Twins t) (hcounts : view.Counts) :
    Coupled view Eq s.readClock t.readClock := by
  unfold readClock
  refine .bind .get fun before before' hbefore => ?_
  refine .bind (.record rfl) fun _ _ _ => ?_
  obtain ⟨-, -, -, -, -, hclock⟩ := h.options_eq
  rw [hcounts.clockReads hbefore, hclock, h.systemTime]
  cases t.options.clock with
  | system => exact .pure rfl
  | custom reading => exact .ofExcept (.refl hcounts.refl (fun _ => rfl) _)

/-- The same ids are found out. -/
theorem ids_eq (h : s.Twins t) :
    s.options.projectId s.credential = t.options.projectId t.credential ∧
      s.options.accountId s.credential = t.options.accountId t.credential := by
  obtain ⟨-, -, -, haccount, hproject, -⟩ := h.options_eq
  unfold Options.projectId Options.accountId
  rw [← hproject, ← haccount]
  exact ⟨Subject.project.resolve_eq (fun accessor hgiven => h.accessors accessor (.inl hgiven))
      h.credential,
    Subject.account.resolve_eq (fun accessor hgiven => h.accessors accessor (.inr hgiven))
      h.credential⟩

/-- Having a claim signed looks the same if the signers cannot be told apart. -/
theorem signedClaim_coupled {assertions : String → String → Prop} (h : s.Twins t)
    (hcounts : view.Counts)
    (hsign : ∀ project account claims, Coupled view assertions
      (s.signer.sign project account claims (s.credential.bind Credential.token))
      (t.signer.sign project account claims (t.credential.bind Credential.token))) :
    Coupled view assertions s.signedClaim t.signedClaim := by
  have hids : ∀ outcome : Except Failure Text, Alike view.failures Eq outcome outcome :=
    fun outcome => .refl hcounts.refl (fun _ => rfl) outcome
  unfold signedClaim
  rw [h.ids_eq.1, h.ids_eq.2]
  refine .bind (.ofExcept (hids _)) fun project project' hproject => ?_
  refine .bind (.ofExcept (hids _)) fun account account' haccount => ?_
  refine .bind (h.readClock_coupled hcounts) fun now now' hnow => ?_
  subst hproject haccount hnow
  obtain ⟨hrole, -, hvalidity, -⟩ := h.options_eq
  rw [hrole, hvalidity]
  exact hsign project account _

/-- Logging in looks the same if the signers and the transports cannot be told apart, and failures that
are alike are reported in the same way. -/
theorem login_coupled {assertions : String → String → Prop} {tokens : Token → Token → Prop}
    (h : s.Twins t) (hsigned : Coupled view assertions s.signedClaim t.signedClaim)
    (hexchange : ∀ assertion assertion', assertions assertion assertion' → ∀ mount role,
      Coupled view tokens (s.transport.exchange methodName assertion mount role)
        (t.transport.exchange methodName assertion' mount role))
    (hreport : ∀ failure failure', view.failures failure failure' →
      failureEvent t.options failure = failureEvent t.options failure' ∧
        view.failures (explain failure) (explain failure')) :
    Coupled view tokens s.login t.login := by
  obtain ⟨hrole, hmountPath, -⟩ := h.options_eq
  have hsteps : Coupled view tokens
      (s.signedClaim >>= fun assertion =>
        s.transport.exchange methodName assertion s.options.mountPath s.options.role)
      (t.signedClaim >>= fun assertion =>
        t.transport.exchange methodName assertion t.options.mountPath t.options.role) := by
    rw [hrole, hmountPath]
    exact .bind hsigned fun assertion assertion' hassertion =>
      hexchange assertion assertion' hassertion _ _
  have hevent : ∀ failure, failureEvent s.options failure = failureEvent t.options failure := by
    intro failure
    rw [failureEvent, failureEvent, hrole, hmountPath]
  unfold login
  refine .bind (.tryCatch hsteps fun failure failure' hfailure => ?_) fun token token' htoken => ?_
  · obtain ⟨hsame, hexplain⟩ := hreport failure failure' hfailure
    rw [hevent, hsame]
    exact .bind (.report _) fun _ _ _ => .throw hexplain
  · rw [hrole, hmountPath]
    exact .bind (.report _) fun _ _ _ => .pure htoken

end Twins

/-! ## Runs -/

/-- A call after journals that look the same is made alike. -/
theorem make_coupled {values : Answer → Answer → Prop} {call : Call}
    (h : Coupled view values (s.call call) (t.call call)) {before before' : Journal}
    (hbefore : before.map view.look = before'.map view.look) :
    (s.make before call).Coupled view values (t.make before' call) := by
  obtain ⟨hresult, hafter⟩ := h before before' hbefore
  have hlength : before.length = before'.length := by
    rw [← List.length_map, hbefore, List.length_map]
  refine ⟨rfl, hbefore, hresult, ?_⟩
  simp only [make, List.map_drop]
  rw [hlength]
  exact congrArg (List.drop before'.length) hafter

/-- Runs after journals that look the same are made alike in each of their calls. -/
theorem run_coupled {values : Answer → Answer → Prop}
    (h : ∀ call, Coupled view values (s.call call) (t.call call)) {before before' : Journal}
    (hbefore : before.map view.look = before'.map view.look) (calls : List Call) :
    List.Forall₂ (Made.Coupled view values) (s.run before calls) (t.run before' calls) := by
  induction calls generalizing before before' with
  | nil => exact .nil
  | cons call rest ih =>
    have hmade := make_coupled (h call) hbefore
    refine .cons hmade (ih ?_)
    simp only [Made.after, List.map_append, hmade.entries, hmade.before]

end Session

end IamLogin
