import IamLogin.Proofs.Run

/-!
# The order of the steps

A call finds out the project, then the account, then the time, then has the claim signed, and a
login then has the assertion exchanged. The first step that fails is the last one gone. So nothing
is sent for an account that is not known, the transport is used for an assertion that was signed in
the same call and for nothing else, and whatever fails, a login reports a failure of one kind that
keeps the failed step behind it.

The facts are gathered for one call, and hold of every call of every run.
-/

namespace IamLogin

/-- Whether an effect is a use of a login transport. -/
def Effect.isUse : Effect → Bool
  | .request .vault _ => true
  | .handover .. => true
  | _ => false

/-- What a use of a transport for these arguments looks like. -/
def Transport.IsUse (t : Transport) (method assertion mount role : Text) : Effect → Prop
  | .request .vault request =>
    ∃ v, t = .vault v ∧ (v.posting assertion mount role).request = .ok request
  | .handover method' assertion' mount' role' =>
    (∃ handover, t = .custom handover) ∧
      method' = method ∧ assertion' = assertion ∧ mount' = mount ∧ role' = role
  | _ => False

/-- How a failure is reported: as it is if it is of the kind that a login reports, and else as one
of that kind with the failure behind it and its wording in it. -/
def Failure.IsReportOf (reported failure : Failure) : Prop :=
  reported.kind.isAuthentication = true ∧
    (failure.kind.isAuthentication = true → reported = failure) ∧
    (failure.kind.isAuthentication = false →
      reported.kind = .authentication ∧ reported.cause? = some failure ∧
        reported.message = Text.ofString "Cannot login using GCP-IAM: " ++ failure.message)

namespace Session

/-- What is true of a call whose steps are gone in order. -/
structure Orderly (s : Session) (made : Made) : Prop where
  /-- The call goes its steps one after the other and stops at the first that fails. -/
  goes : s.Goes made
  /-- Nothing is sent to the signer if an id or the clock fails. -/
  silent : (∃ failure, s.options.projectId s.credential = .error failure) ∨
    (∃ failure, s.options.accountId s.credential = .error failure) ∨
    (∃ failure, s.reading made.before.clockReads = .error failure) →
    made.entries.requestsTo .iam = []
  /-- The signer is asked once at most. -/
  asksOnce : (made.entries.requestsTo .iam).length ≤ 1
  /-- The transport is used once at most. -/
  usesOnce : made.entries.countP Effect.isUse ≤ 1
  /-- The transport is used by logins, after an assertion was signed in the same call, for that
  assertion and what the options say. -/
  usesSigned : ∀ use ∈ made.entries, use.isUse = true → made.call = .login ∧
    ∃ assertion signing later, s.Signing made.before (.ok assertion) signing ∧
      made.entries = signing ++ later ∧ use ∈ later ∧
      s.transport.IsUse "GCP-IAM" assertion s.options.mountPath s.options.role use
  /-- A login gives the token of the transport, or reports the failure of the failed step. -/
  login : made.call = .login →
    (∃ token assertion signing exchange, s.Signing made.before (.ok assertion) signing ∧
      s.transport.Course "GCP-IAM" assertion s.options.mountPath s.options.role
        (made.before ++ signing) (.ok token) exchange ∧
      made.result = .ok (.token token)) ∨
    (∃ failure reported steps, s.Steps made.before (.error failure) steps ∧
      reported.IsReportOf failure ∧ made.result = .error reported)

end Session

/-! ## What services are asked on the way -/

/-- Having members signed asks the signer once at most. -/
theorem Signer.Course.requestsTo_length_le {s : Signer} {project account : Text}
    {claims : Json.Members} {token : Option Text} {earlier : Nat}
    {result : Except Failure String} {entries : Journal}
    (h : s.Course project account claims token earlier result entries) :
    (Journal.requestsTo .iam entries).length ≤ 1 := by
  cases h <;> simp [Journal.requestsTo]

/-- Having members signed uses no transport. -/
theorem Signer.Course.isUse_eq_false {s : Signer} {project account : Text}
    {claims : Json.Members} {token : Option Text} {earlier : Nat}
    {result : Except Failure String} {entries : Journal}
    (h : s.Course project account claims token earlier result entries) :
    ∀ effect ∈ entries, effect.isUse = false := by
  cases h <;> simp [Effect.isUse]

namespace Transport.Course

variable {t : Transport} {method assertion mount role : Text} {before : Journal}
  {result : Except Failure Token} {entries : Journal}

/-- An exchange does not ask the signer. -/
theorem requestsTo_iam (h : t.Course method assertion mount role before result entries) :
    Journal.requestsTo .iam entries = [] := by
  cases h with
  | vault h => cases h <;> simp [Journal.requestsTo]
  | custom => simp [Journal.requestsTo]

/-- An exchange is one use of the transport at most. -/
theorem countP_isUse_le (h : t.Course method assertion mount role before result entries) :
    entries.countP Effect.isUse ≤ 1 := by
  cases h with
  | vault h => cases h <;> simp [List.countP_cons, Effect.isUse]
  | custom => simp [List.countP_cons, Effect.isUse]

/-- What an exchange uses the transport for is what it was asked for. -/
theorem isUse (h : t.Course method assertion mount role before result entries)
    {use : Effect} (hmem : use ∈ entries) (huse : use.isUse = true) :
    t.IsUse method assertion mount role use := by
  cases h with
  | @vault v _ _ _ _ _ _ _ h =>
    cases h with
    | unsent _ => simp at hmem
    | refused hrequest _ =>
      obtain rfl := List.mem_singleton.mp hmem
      exact ⟨v, rfl, hrequest⟩
    | granted hrequest _ =>
      rcases List.mem_cons.mp hmem with rfl | hmem
      · exact ⟨v, rfl, hrequest⟩
      · obtain rfl := List.mem_singleton.mp hmem
        simp [Effect.isUse] at huse
  | @custom handover =>
    obtain rfl := List.mem_singleton.mp hmem
    exact ⟨⟨handover, rfl⟩, rfl, rfl, rfl, rfl⟩

end Transport.Course

namespace Session

variable {s : Session} {before : Journal}

/-- Having a claim signed asks the signer once at most. -/
theorem Signing.requestsTo_length_le {result : Except Failure String} {entries : Journal}
    (h : s.Signing before result entries) : (Journal.requestsTo .iam entries).length ≤ 1 := by
  cases h with
  | noProject _ => simp [Journal.requestsTo]
  | noAccount _ _ => simp [Journal.requestsTo]
  | noTime _ _ _ => simp [Journal.requestsTo]
  | asked _ _ _ h => exact h.requestsTo_length_le

/-- Having a claim signed uses no transport. -/
theorem Signing.isUse_eq_false {result : Except Failure String} {entries : Journal}
    (h : s.Signing before result entries) : ∀ effect ∈ entries, effect.isUse = false := by
  cases h with
  | noProject _ => simp
  | noAccount _ _ => simp
  | noTime _ _ _ => simp [Effect.isUse]
  | asked _ _ _ h =>
    intro effect hmem
    rcases List.mem_cons.mp hmem with rfl | hmem
    · rfl
    · exact h.isUse_eq_false effect hmem

/-- If an id or the clock fails, nothing is sent and no assertion comes of it. -/
theorem Signing.silent {result : Except Failure String} {entries : Journal}
    (h : s.Signing before result entries)
    (hfails : (∃ failure, s.options.projectId s.credential = .error failure) ∨
      (∃ failure, s.options.accountId s.credential = .error failure) ∨
      (∃ failure, s.reading before.clockReads = .error failure)) :
    Journal.requestsTo .iam entries = [] ∧ ∃ failure, result = .error failure := by
  cases h with
  | noProject _ => exact ⟨rfl, _, rfl⟩
  | noAccount _ _ => exact ⟨rfl, _, rfl⟩
  | noTime _ _ _ => exact ⟨rfl, _, rfl⟩
  | asked hproject haccount hnow _ => simp [hproject, haccount, hnow] at hfails

/-- What a login reports is a report of the failure that ended its steps. -/
theorem explain_isReportOf (failure : Failure) : (explain failure).IsReportOf failure := by
  unfold explain Failure.IsReportOf
  split
  · case isTrue h => simp [h]
  · case isFalse h =>
    refine ⟨rfl, fun h' => absurd h' h, fun _ => ⟨rfl, rfl, ?_⟩⟩
    rfl

/-- The entries of a login without the event that ends it hold all its requests. -/
theorem requestsTo_append_event (service : Service) (entries : Journal) (event : Event) :
    Journal.requestsTo service (entries ++ [.event event]) =
      Journal.requestsTo service entries := by
  simp [Journal.requestsTo]

/-- The steps of a login ask the signer once at most. -/
theorem Steps.requestsTo_length_le {result : Except Failure Token} {entries : Journal}
    (h : s.Steps before result entries) : (Journal.requestsTo .iam entries).length ≤ 1 := by
  cases h with
  | unsigned h => exact h.requestsTo_length_le
  | exchanged hsigning hexchange =>
    rw [Journal.requestsTo_append, hexchange.requestsTo_iam, List.append_nil]
    exact hsigning.requestsTo_length_le

/-- The steps of a login use the transport once at most. -/
theorem Steps.countP_isUse_le {result : Except Failure Token} {entries : Journal}
    (h : s.Steps before result entries) : entries.countP Effect.isUse ≤ 1 := by
  cases h with
  | unsigned h =>
    rw [List.countP_eq_zero.mpr (by simpa using h.isUse_eq_false)]
    exact Nat.zero_le 1
  | exchanged hsigning hexchange =>
    rw [List.countP_append, List.countP_eq_zero.mpr (by simpa using hsigning.isUse_eq_false),
      Nat.zero_add]
    exact hexchange.countP_isUse_le

/-- A transport is used after an assertion was signed, and for that assertion. -/
theorem Steps.usesSigned {result : Except Failure Token} {entries : Journal}
    (h : s.Steps before result entries) {use : Effect} (hmem : use ∈ entries)
    (huse : use.isUse = true) :
    ∃ assertion signing later, s.Signing before (.ok assertion) signing ∧
      entries = signing ++ later ∧ use ∈ later ∧
      s.transport.IsUse "GCP-IAM" assertion s.options.mountPath s.options.role use := by
  cases h with
  | unsigned h => simp [h.isUse_eq_false use hmem] at huse
  | @exchanged assertion signing _ exchange hsigning hexchange =>
    rcases List.mem_append.mp hmem with hmem | hmem
    · simp [hsigning.isUse_eq_false use hmem] at huse
    · exact ⟨assertion, signing, exchange, hsigning, rfl, hmem, hexchange.isUse hmem huse⟩

/-- If an id or the clock fails, the steps of a login send nothing to the signer. -/
theorem Steps.silent {result : Except Failure Token} {entries : Journal}
    (h : s.Steps before result entries)
    (hfails : (∃ failure, s.options.projectId s.credential = .error failure) ∨
      (∃ failure, s.options.accountId s.credential = .error failure) ∨
      (∃ failure, s.reading before.clockReads = .error failure)) :
    Journal.requestsTo .iam entries = [] := by
  cases h with
  | unsigned h => exact (h.silent hfails).1
  | exchanged hsigning _ =>
    obtain ⟨_, hresult⟩ := (hsigning.silent hfails).2
    simp at hresult

/-- What a signing call does is in order. -/
theorem orderly_sign {result : Except Failure String} {entries : Journal}
    (h : s.Signing before result entries) :
    s.Orderly ⟨.sign, before, result.map .assertion, entries⟩ where
  goes := .sign h
  silent hfails := (h.silent hfails).1
  asksOnce := h.requestsTo_length_le
  usesOnce := by
    rw [List.countP_eq_zero.mpr (by simpa using h.isUse_eq_false)]
    exact Nat.zero_le 1
  usesSigned use hmem huse := by simp [h.isUse_eq_false use hmem] at huse
  login hcall := by simp at hcall

/-- What a login does is in order. -/
theorem orderly_login {result : Except Failure Token} {entries : Journal}
    (h : s.Steps before result entries) :
    s.Orderly ⟨.login, before, (result.mapError explain).map .token,
      entries ++ [.event (lastEvent s.options result)]⟩ where
  goes := .login h
  silent hfails := by
    rw [requestsTo_append_event]
    exact h.silent hfails
  asksOnce := by
    rw [requestsTo_append_event]
    exact h.requestsTo_length_le
  usesOnce := by
    rw [List.countP_append]
    exact h.countP_isUse_le
  usesSigned use hmem huse := by
    rcases List.mem_append.mp hmem with hmem | hmem
    · obtain ⟨assertion, signing, later, hsigning, hentries, hlater, hargs⟩ :=
        h.usesSigned hmem huse
      refine ⟨rfl, assertion, signing, later ++ [.event (lastEvent s.options result)], hsigning,
        ?_, List.mem_append_left _ hlater, hargs⟩
      rw [hentries, List.append_assoc]
    · obtain rfl := List.mem_singleton.mp hmem
      simp [Effect.isUse] at huse
  login _ := by
    cases result with
    | error failure =>
      exact .inr ⟨failure, explain failure, entries, h, explain_isReportOf failure, rfl⟩
    | ok token =>
      cases h with
      | exchanged hsigning hexchange =>
        exact .inl ⟨token, _, _, _, hsigning, hexchange, rfl⟩

/-- A session that knows its ids and has a clock that only fails. -/
def stopped : Session where
  options :=
    { role := "role", supplier := none, mountPath := "gcp", validity := ⟨900000000⟩
      account := some (Accessor.constant (some "account"))
      project := some (Accessor.constant (some "project"))
      clock := .custom fun _ => .error (.raised .value "stopped") }
  credential := none
  signer := { address := "https://iam.example", endpoint := fun _ _ => .error .badHeader }
  transport := .custom fun _ _ _ _ _ => .error .badHeader
  systemTime := fun _ => ⟨1970, 1, 1, 0, 0, 0, 0, none⟩

end Session

end IamLogin
