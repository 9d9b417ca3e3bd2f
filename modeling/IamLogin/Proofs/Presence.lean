import IamLogin.Proofs.Drafting
import IamLogin.Proofs.Opening

/-!
# When a credential may be missing

A session may have no credential. An id that is not given in its own right is then read from nothing,
which fails in the middle of a call. Options are built without a supplier only if both ids were given,
and a guarded lookup gives a credential or fails; but a supplier with nothing at hand, and one of the
caller's own that gives nothing, pass both checks. Here it is told exactly when a call reads an id from
nothing.

What is read from nothing is told by what depends on it: a session reads nothing by default if its runs
are the same whatever would be read there.
-/

namespace IamLogin

/-! ## Reading an id from nothing -/

/-- The accessor for an id that is not given in its own right, if something else is read where there is
no credential. -/
def Subject.fromCredentialOr (missing : Subject → Except Failure Json) (subject : Subject) : Accessor
  | none => missing subject
  | some credential => subject.fromCredential (some credential)

/-- Options for which something else is read by default where there is no credential. -/
def Options.withMissing (o : Options) (missing : Subject → Except Failure Json) : Options :=
  { o with
    account := some (o.account.getD (Subject.account.fromCredentialOr missing))
    project := some (o.project.getD (Subject.project.fromCredentialOr missing)) }

namespace Session

/-- A session for which something else is read by default where there is no credential. -/
def withMissing (s : Session) (missing : Subject → Except Failure Json) : Session :=
  { s with options := s.options.withMissing missing }

/-- Whether no call reads an id from nothing by default: what would be read there changes no run. -/
def IgnoresMissing (s : Session) : Prop :=
  ∀ missing before calls, (s.withMissing missing).run before calls = s.run before calls

/-- Whether a call comes to read the id of a subject from nothing by default. The account is come to
only if the project is known. -/
inductive ReadsMissing (s : Session) : Subject → Prop
  /-- The project is always come to. -/
  | project :
    s.credential = none → s.options.project = none →
    ReadsMissing s .project
  /-- The project is known without a credential, and the account is not given. -/
  | account {project : Text} :
    s.credential = none → s.options.projectId none = .ok project → s.options.account = none →
    ReadsMissing s .account

variable {s : Session} {missing : Subject → Except Failure Json}

/-- An id that is given, or read from a credential, does not depend on what is read from nothing. -/
theorem resolve_withMissing {subject : Subject} {given : Option Accessor}
    {credential : Option Credential} (h : given ≠ none ∨ credential ≠ none) :
    subject.resolve (some (given.getD (subject.fromCredentialOr missing))) credential =
      subject.resolve given credential := by
  cases given with
  | some accessor => rfl
  | none =>
    cases credential with
    | some credential => rfl
    | none => simp at h

/-- Having a claim signed does not depend on what is read from nothing if nothing is read there. -/
theorem signedClaim_withMissing (h : ∀ subject, ¬ s.ReadsMissing subject) :
    (s.withMissing missing).signedClaim = s.signedClaim := by
  have hproject : (s.withMissing missing).options.projectId s.credential =
      s.options.projectId s.credential := by
    refine resolve_withMissing ?_
    by_contra hread
    rw [not_or, not_not, not_not] at hread
    exact h .project (.project hread.2 hread.1)
  have hclock : (s.withMissing missing).readClock = s.readClock := rfl
  have hcredential : (s.withMissing missing).credential = s.credential := rfl
  unfold signedClaim
  rw [hcredential, hproject, hclock]
  cases hresolved : s.options.projectId s.credential with
  | error failure => rfl
  | ok project =>
    have haccount : (s.withMissing missing).options.accountId s.credential =
        s.options.accountId s.credential := by
      refine resolve_withMissing ?_
      by_contra hread
      rw [not_or, not_not, not_not] at hread
      exact h .account (.account hread.2 (hread.2 ▸ hresolved) hread.1)
    rw [haccount]
    rfl

/-- Sessions whose calls do the same have the same runs. -/
theorem run_eq_of_call_eq {t : Session} (h : s.call = t.call) (before : Journal)
    (calls : List Call) : s.run before calls = t.run before calls := by
  have hmake : s.make = t.make := by
    unfold make
    rw [h]
  induction calls generalizing before with
  | nil => rfl
  | cons call rest ih => simp only [run, hmake, ih]

/-- What a call for a signed claim gives after no other. -/
theorem result_run_sign (s : Session) :
    (s.run [] [.sign]).map Made.result = [(s.signedClaim.after []).1.map .assertion] := by
  simp only [run, make, call, Action.after_map, List.map_cons, List.map_nil]

/-- Without a project, no claim is signed. -/
theorem signedClaim_after_noProject {failure : Failure}
    (h : s.options.projectId s.credential = .error failure) (journal : Journal) :
    s.signedClaim.after journal = (.error failure, journal) := by
  simp only [signedClaim, Action.after_bind, Action.after_ofExcept, h]

/-- Without an account, no claim is signed. -/
theorem signedClaim_after_noAccount {project : Text} {failure : Failure}
    (hproject : s.options.projectId s.credential = .ok project)
    (haccount : s.options.accountId s.credential = .error failure) (journal : Journal) :
    s.signedClaim.after journal = (.error failure, journal) := by
  simp only [signedClaim, Action.after_bind, Action.after_ofExcept, hproject, haccount]

/-- Where an id is read from nothing, having a claim signed fails with what is read there. -/
theorem ReadsMissing.signedClaim_after {subject : Subject} (h : s.ReadsMissing subject) :
    ∃ name, s.signedClaim.after [] =
        (.error (.accessorFailed subject (.noPart false name)), []) ∧
      ∀ failure, (s.withMissing fun _ => .error failure).signedClaim.after [] =
        (.error (.accessorFailed subject failure), []) := by
  cases h with
  | project hcredential hproject =>
    refine ⟨"project_id", signedClaim_after_noProject ?_ [], fun failure => ?_⟩
    · rw [Options.projectId, hcredential, hproject]
      rfl
    · refine signedClaim_after_noProject ?_ []
      rw [Options.projectId, withMissing, Options.withMissing, hcredential, hproject]
      rfl
  | @account project hcredential hproject haccount =>
    have hgiven : s.options.project ≠ none := by
      intro hnone
      rw [Options.projectId, hnone] at hproject
      cases hproject
    refine ⟨"client_email", signedClaim_after_noAccount (hcredential ▸ hproject) ?_ [],
      fun failure => ?_⟩
    · rw [Options.accountId, hcredential, haccount]
      rfl
    · have hproject' : (s.withMissing fun _ => .error failure).options.projectId s.credential =
          .ok project := by
        rw [hcredential]
        exact (resolve_withMissing (.inl hgiven)).trans hproject
      refine signedClaim_after_noAccount hproject' ?_ []
      rw [Options.accountId, withMissing, Options.withMissing, hcredential, haccount]
      rfl

/-- No call reads an id from nothing exactly if no call comes to it. -/
theorem ignoresMissing_iff (s : Session) :
    s.IgnoresMissing ↔ ∀ subject, ¬ s.ReadsMissing subject := by
  constructor
  · -- two failures that are read from nothing can be told apart in the result
    intro hignores subject hreads
    obtain ⟨name, hhere, hthere⟩ := hreads.signedClaim_after
    have hsame := congrArg (List.map Made.result)
      (hignores (fun _ => .error (.raised .value "")) [] [.sign])
    rw [result_run_sign, result_run_sign, hhere, hthere] at hsame
    cases hsame
  · intro hnever missing before calls
    refine run_eq_of_call_eq (funext fun call => ?_) before calls
    have hsigned : (s.withMissing missing).signedClaim = s.signedClaim :=
      signedClaim_withMissing hnever
    cases call with
    | sign => exact congrArg (Answer.assertion <$> ·) hsigned
    | login =>
      have hlogin : (s.withMissing missing).login = s.login := by
        unfold login
        rw [hsigned]
        rfl
      exact congrArg (Answer.token <$> ·) hlogin

/-- When a call comes to read an id from nothing. -/
theorem exists_readsMissing_iff (s : Session) :
    (∃ subject, s.ReadsMissing subject) ↔ s.credential = none ∧
      (s.options.project = none ∨
        (s.options.account = none ∧ ∃ project, s.options.projectId none = .ok project)) := by
  constructor
  · rintro ⟨subject, hreads⟩
    cases hreads with
    | project hcredential hproject => exact ⟨hcredential, .inl hproject⟩
    | account hcredential hproject haccount =>
      exact ⟨hcredential, .inr ⟨haccount, _, hproject⟩⟩
  · rintro ⟨hcredential, hproject | ⟨haccount, project, hproject⟩⟩
    · exact ⟨.project, .project hcredential hproject⟩
    · exact ⟨.account, .account hcredential hproject haccount⟩

end Session

/-! ## Suppliers that give nothing -/

/-- Whether a supplier passes on that there is no credential when it is asked after the given number of
lookups. -/
inductive Supplier.PassesNothing (earlier : Nat) : Supplier → Prop
  /-- Nothing is at hand. -/
  | fixed : PassesNothing earlier (.fixed none)
  /-- A lookup of the caller's own gives nothing. -/
  | direct {lookup : Lookup} :
    lookup earlier = .ok none →
    PassesNothing earlier (.direct lookup)

namespace Session

/-- No credential is obtained if there is nobody to ask, or a supplier passes that on. -/
theorem Obtains.eq_none_iff {earlier : Nat} {supplier : Option Supplier}
    {credential : Option Credential} (h : Obtains earlier supplier (.ok credential)) :
    credential = none ↔
      supplier = none ∨ ∃ asked, supplier = some asked ∧ asked.PassesNothing earlier := by
  cases h with
  | unsupplied => exact iff_of_true rfl (.inl rfl)
  | fixed =>
    constructor
    · rintro rfl
      exact .inr ⟨_, rfl, .fixed⟩
    · rintro (hnone | ⟨asked, hasked, hpasses⟩)
      · cases hnone
      · cases hasked
        cases hpasses
        rfl
  | direct hlookup =>
    constructor
    · rintro rfl
      exact .inr ⟨_, rfl, .direct hlookup⟩
    · rintro (hnone | ⟨asked, hasked, hpasses⟩)
      · cases hnone
      · cases hasked
        cases hpasses with
        | direct hnothing => exact Except.ok.inj (hlookup.symm.trans hnothing)
  | guarded hlookup =>
    constructor
    · intro hnone
      cases hnone
    · rintro (hnone | ⟨asked, hasked, hpasses⟩)
      · cases hnone
      · cases hasked
        cases hpasses

/-- A session that was opened has its options, and the credential that was obtained. -/
theorem obtains_of_start {o : Options} {signer : Signer} {transport : Transport}
    {systemTime : Nat → Moment} {before later : Journal} {s : Session}
    (h : (start o signer transport systemTime).after before = (.ok s, later)) :
    s.options = o ∧ Obtains before.lookups o.supplier (.ok s.credential) := by
  obtain ⟨outcome, hobtain, hobtains⟩ := exists_obtains o.supplier before
  rw [start_after, hobtain] at h
  cases outcome with
  | error failure => cases h
  | ok credential =>
    cases h
    exact ⟨rfl, hobtains⟩

/-- Whether a session opened with what a history wrote, after the given number of lookups, is given
nothing by a supplier. -/
def GivenNothing (history : List Change) (earlier : Nat) : Prop :=
  ∃ supplier, Draft.Slot.supplier.last history = some supplier ∧ supplier.PassesNothing earlier

/-- A session opened with options that were built has no credential if both ids were given and no
supplier was, or if a supplier gave nothing. Its calls read an id from nothing exactly in the second of
these cases, where the project was not given, or the project is known and the account was not given. -/
theorem start_ignoresMissing_iff {history : List Change} {o : Options} {signer : Signer}
    {transport : Transport} {systemTime : Nat → Moment} {before later : Journal} {s : Session}
    (hbuild : (Draft.applyAll {} history).build = .ok o)
    (hstart : (start o signer transport systemTime).after before = (.ok s, later)) :
    (s.credential = none ↔
      (Draft.Slot.supplier.last history = none ∧ Draft.Slot.account.IsWritten history ∧
        Draft.Slot.project.IsWritten history) ∨ GivenNothing history before.lookups) ∧
    (s.IgnoresMissing ↔ ¬ (GivenNothing history before.lookups ∧
      (¬ Draft.Slot.project.IsWritten history ∨
        (¬ Draft.Slot.account.IsWritten history ∧ ∃ project,
          Subject.project.resolve (Draft.Slot.project.last history) none = .ok project)))) := by
  obtain ⟨hmet, hcarries⟩ := ((Draft.build_iff history).1 o).mp hbuild
  obtain ⟨rfl, hobtains⟩ := obtains_of_start hstart
  have hcredential : s.credential = none ↔
      (Draft.Slot.supplier.last history = none ∧ Draft.Slot.account.IsWritten history ∧
        Draft.Slot.project.IsWritten history) ∨ GivenNothing history before.lookups := by
    rw [hobtains.eq_none_iff, ← hcarries.supplier]
    refine or_congr_left ⟨fun hnone => ⟨hnone, ?_⟩, fun h => h.1⟩
    rcases hmet .identity with hsome | hwritten
    · exact absurd hnone hsome
    · exact hwritten
  have hproject : s.options.project = none ↔ ¬ Draft.Slot.project.IsWritten history := by
    rw [← Draft.Slot.isSome_project_iff, hcarries.project, Option.not_isSome_iff_eq_none]
  have haccount : s.options.account = none ↔ ¬ Draft.Slot.account.IsWritten history := by
    rw [← Draft.Slot.isSome_account_iff, hcarries.account, Option.not_isSome_iff_eq_none]
  refine ⟨hcredential, ?_⟩
  rw [ignoresMissing_iff, ← not_exists, exists_readsMissing_iff, hproject, haccount,
    Options.projectId, ← hcarries.project, hcredential]
  refine not_congr ⟨?_, fun h => ⟨.inr h.1, h.2⟩⟩
  rintro ⟨⟨-, hwritten⟩ | hnothing, hmissing⟩
  · -- without a supplier both ids were given, so neither of them is read from nothing
    rcases hmissing with hunwritten | ⟨hunwritten, -⟩
    · exact absurd hwritten.2 hunwritten
    · exact absurd hwritten.1 hunwritten
  · exact ⟨hnothing, hmissing⟩

/-- A role, and nothing as the credential at hand. -/
def nothingAtHand : List Change := [.role (some "role"), .credential none]

/-- Both ids. -/
def bothIds : List Change := [.projectId (some "project"), .accountId (some "account")]

/-- The session that is opened with nothing at hand and both ids. -/
def named : Session where
  options :=
    { role := "role", supplier := some (.fixed none), mountPath := "gcp", validity := defaultValidity
      account := some (.constant (some "account")), project := some (.constant (some "project"))
      clock := .system }
  credential := none
  signer := stopped.signer
  transport := stopped.transport
  systemTime := stopped.systemTime

/-- Where both ids are given, nothing at hand is no harm. -/
theorem start_ignoresMissing_iff_named :
    (Draft.applyAll {} (nothingAtHand ++ bothIds)).build = .ok named.options ∧
      (start named.options named.signer named.transport named.systemTime).after [] =
        (.ok named, [.inquiry]) ∧
      named.credential = none ∧ named.IgnoresMissing := by
  have hbuild : (Draft.applyAll {} (nothingAtHand ++ bothIds)).build = .ok named.options := rfl
  have hstart : (start named.options named.signer named.transport named.systemTime).after [] =
      (.ok named, [.inquiry]) := rfl
  refine ⟨hbuild, hstart, rfl, (start_ignoresMissing_iff hbuild hstart).2.mpr ?_⟩
  rintro ⟨-, hproject | ⟨haccount, -⟩⟩
  · exact hproject ⟨.projectId (some "project"), by simp [bothIds], rfl⟩
  · exact haccount ⟨.accountId (some "account"), by simp [bothIds], rfl⟩

/-- Where no id is given, a session opens with nothing at hand, and a login reads the project id from
nothing. -/
theorem start_nothingAtHand :
    ∃ o s, (Draft.applyAll {} nothingAtHand).build = .ok o ∧
      (start o stopped.signer stopped.transport stopped.systemTime).after [] =
        (.ok s, [.inquiry]) ∧
      s.credential = none ∧ ¬ Draft.Slot.project.IsWritten nothingAtHand ∧
      ¬ Draft.Slot.account.IsWritten nothingAtHand ∧ ¬ s.IgnoresMissing ∧
      (s.run [.inquiry] [.login]).map Made.result = [.error (.stepFailed "GCP-IAM"
        (.accessorFailed .project (.noPart false "project_id")))] := by
  refine ⟨_, _, rfl, rfl, rfl, ?_, ?_, ?_, rfl⟩
  · rw [← Draft.Slot.isSome_project_iff]
    decide
  · rw [← Draft.Slot.isSome_account_iff]
    decide
  · rw [ignoresMissing_iff, ← not_exists, exists_readsMissing_iff, not_not]
    exact ⟨rfl, .inl rfl⟩

end Session

end IamLogin
