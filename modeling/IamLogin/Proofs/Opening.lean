import IamLogin.Proofs.Order
import IamLogin.Proofs.Posting

/-!
# Asking once and reading the clock each time

A session asks for the credential when it is opened, and never again. What the supplier gives or how
it fails decides what comes of it: a guarded lookup first sorts out what it can, a failure that is a
matter of configuration is then passed on, and any other one becomes such a matter with the failure
behind it. Afterwards every call whose ids are known reads the clock once, and every other call not at
all, so the claims of a call are of its own time.
-/

namespace IamLogin

/-- The times a supplier was asked. -/
def Journal.inquiries (journal : Journal) : Nat := journal.count .inquiry

/-- Whether a failure says that there is no credential, in one of the kinds for that and with what is
behind it. -/
structure Failure.IsUnobtained (failure : Failure) (kind : Kind) (cause : Option Failure) : Prop where
  /-- It is of the kind. -/
  kind : failure.kind = kind
  /-- It has the cause. -/
  cause : failure.cause? = cause
  /-- It says so. -/
  message : failure.message = Text.ofString "Cannot obtain GCP credential"

/-! ## Suppliers -/

namespace Supplier

/-- What a supplier gives when it is asked after the given number of lookups. -/
def given (earlier : Nat) : Supplier → Except Failure (Option Credential)
  | fixed credential => .ok credential
  | guarded lookup => guard (lookup earlier)
  | direct lookup => lookup earlier

/-- The entries that are made when a supplier is asked. -/
def marks : Supplier → Journal
  | fixed _ => [.inquiry]
  | guarded _ | direct _ => [.inquiry, .lookup]

/-- A supplier that is asked makes its entries and gives what it gives. -/
theorem ask_after (supplier : Supplier) (journal : Journal) :
    supplier.ask.after journal = (supplier.given journal.lookups, journal ++ supplier.marks) := by
  have hlookups : Journal.lookups (journal ++ [.inquiry]) = journal.lookups := by
    simp [Journal.lookups]
  have hmake : ∀ lookup : Lookup, (make lookup).after (journal ++ [.inquiry]) =
      (lookup journal.lookups, journal ++ [.inquiry, .lookup]) := by
    intro lookup
    simp only [make, Action.after_bind, Action.after_get, Action.after_record, Action.after_ofExcept,
      hlookups, List.append_assoc, List.cons_append, List.nil_append]
  cases supplier with
  | fixed credential =>
    simp only [ask, Action.after_bind, Action.after_record, Action.after_pure, given, marks]
  | guarded lookup => simp only [ask, Action.after_bind, Action.after_record, hmake, given, marks]
  | direct lookup => simp only [ask, Action.after_bind, Action.after_record, hmake, given, marks]

/-- How asking a supplier fails before the failure is looked at: as its lookup does, unless that is one
of the failures that a guarded lookup sorts out. -/
inductive Fails (earlier : Nat) : Supplier → Failure → Prop
  /-- A guarded lookup fails in a way that nobody foresaw. -/
  | guarded {lookup : Lookup} {failure : Failure} :
    lookup earlier = .error failure →
    failure.kind.isSystem = false → failure.kind.isValue = false →
    Fails earlier (.guarded lookup) failure
  /-- A lookup of the caller's own fails. -/
  | direct {lookup : Lookup} {failure : Failure} :
    lookup earlier = .error failure →
    Fails earlier (.direct lookup) failure

end Supplier

namespace Session

/-- What comes of asking for the credential of a session after the given number of lookups. -/
inductive Obtains (earlier : Nat) : Option Supplier → Except Failure (Option Credential) → Prop
  /-- There is nobody to ask. -/
  | unsupplied : Obtains earlier none (.ok none)
  /-- A credential is at hand, or nothing is. -/
  | fixed {credential : Option Credential} :
    Obtains earlier (some (.fixed credential)) (.ok credential)
  /-- A lookup of the caller's own gives a credential, or nothing. -/
  | direct {lookup : Lookup} {credential : Option Credential} :
    lookup earlier = .ok credential →
    Obtains earlier (some (.direct lookup)) (.ok credential)
  /-- A guarded lookup gives a credential. -/
  | guarded {lookup : Lookup} {credential : Credential} :
    lookup earlier = .ok (some credential) →
    Obtains earlier (some (.guarded lookup)) (.ok (some credential))
  /-- A guarded lookup gives nothing. -/
  | missing {lookup : Lookup} {report : Failure} :
    lookup earlier = .ok none →
    report.IsUnobtained .credentialUnavailable none →
    Obtains earlier (some (.guarded lookup)) (.error report)
  /-- A guarded lookup is refused by the operating system or meets a wrong value, whatever else its
  failure is. -/
  | unavailable {lookup : Lookup} {failure report : Failure} :
    lookup earlier = .error failure →
    failure.kind.isSystem = true ∨ failure.kind.isValue = true →
    report.IsUnobtained .credentialUnavailable (some failure) →
    Obtains earlier (some (.guarded lookup)) (.error report)
  /-- The supplier fails for a matter of configuration. -/
  | misconfigured {supplier : Supplier} {failure : Failure} :
    supplier.Fails earlier failure →
    failure.kind.isConfiguration = true →
    Obtains earlier (some supplier) (.error failure)
  /-- The supplier fails in any other way. -/
  | unforeseen {supplier : Supplier} {failure report : Failure} :
    supplier.Fails earlier failure →
    failure.kind.isConfiguration = false →
    report.IsUnobtained .configuration (some failure) →
    Obtains earlier (some supplier) (.error report)

/-- A failure of a supplier, as it is reported. -/
theorem obtains_of_fails {earlier : Nat} {supplier : Supplier} {failure : Failure}
    (h : supplier.Fails earlier failure) :
    Obtains earlier (some supplier)
      (.error (if failure.kind.isConfiguration then failure else .supplierFailed failure)) := by
  cases hkind : failure.kind.isConfiguration with
  | true => exact .misconfigured h hkind
  | false => exact .unforeseen h hkind ⟨rfl, rfl, rfl⟩

/-- Asking for the credential makes the entries of the supplier, and one of these things comes of it. -/
theorem exists_obtains (supplier : Option Supplier) (journal : Journal) :
    ∃ outcome,
      (obtainCredential supplier).after journal =
        (outcome, journal ++ (supplier.map Supplier.marks).getD []) ∧
      Obtains journal.lookups supplier outcome := by
  cases supplier with
  | none => exact ⟨_, by simp [obtainCredential], .unsupplied⟩
  | some supplier =>
    have hafter : (obtainCredential (some supplier)).after journal =
        ((supplier.given journal.lookups).mapError fun failure =>
          if failure.kind.isConfiguration then failure else .supplierFailed failure,
          journal ++ supplier.marks) := by
      rw [obtainCredential, Action.after_tryCatch_throw, Supplier.ask_after]
    refine ⟨_, hafter, ?_⟩
    cases supplier with
    | fixed credential => exact .fixed
    | direct lookup =>
      simp only [Supplier.given]
      cases hlookup : lookup journal.lookups with
      | ok credential => exact .direct hlookup
      | error failure => exact obtains_of_fails (.direct hlookup)
    | guarded lookup =>
      simp only [Supplier.given]
      cases hlookup : lookup journal.lookups with
      | ok found =>
        cases found with
        | some credential => exact .guarded hlookup
        | none => exact .missing hlookup ⟨rfl, rfl, rfl⟩
      | error failure =>
        by_cases hsorted : failure.kind.isSystem = true ∨ failure.kind.isValue = true
        · simp only [Supplier.guard, Bool.or_eq_true, if_pos hsorted]
          exact .unavailable hlookup hsorted ⟨rfl, rfl, rfl⟩
        · simp only [Supplier.guard, Bool.or_eq_true, if_neg hsorted]
          rw [not_or, Bool.not_eq_true, Bool.not_eq_true] at hsorted
          exact obtains_of_fails (.guarded hlookup hsorted.1 hsorted.2)

/-- Where no credential is obtained, that is a matter of configuration. -/
theorem Obtains.isConfiguration {earlier : Nat} {supplier : Option Supplier} {failure : Failure}
    (h : Obtains earlier supplier (.error failure)) : failure.kind.isConfiguration = true := by
  cases h with
  | missing _ hreport => rw [hreport.kind]; rfl
  | unavailable _ _ hreport => rw [hreport.kind]; rfl
  | misconfigured _ hkind => exact hkind
  | unforeseen _ _ hreport => rw [hreport.kind]; rfl

/-- A session opens with the credential that is obtained, or does not open. -/
theorem start_after (o : Options) (signer : Signer) (transport : Transport)
    (systemTime : Nat → Moment) (journal : Journal) :
    (start o signer transport systemTime).after journal =
      (((obtainCredential o.supplier).after journal).1.map fun credential =>
          { options := o, credential, signer, transport, systemTime },
        ((obtainCredential o.supplier).after journal).2) := by
  rw [start, Action.after_bind]
  rcases (obtainCredential o.supplier).after journal with ⟨outcome, later⟩
  cases outcome <;> rfl

/-! ## Calls -/

/-- Whether both ids are known. -/
def KnowsIds (s : Session) : Prop :=
  ∃ project account, s.options.projectId s.credential = .ok project ∧
    s.options.accountId s.credential = .ok account

/-- What is true of the calls of an open session, made after what is in a journal. -/
structure Punctual (s : Session) (before : Journal) (calls : List Call) : Prop where
  /-- Nobody asks for the credential again. -/
  unasked : ∀ made ∈ s.run before calls, made.entries.inquiries = 0 ∧ made.entries.lookups = 0
  /-- Every call reads the clock once if the ids are known, and not at all if one is not. -/
  reads : ∀ made ∈ s.run before calls, (s.KnowsIds → made.entries.clockReads = 1) ∧
    (¬ s.KnowsIds → made.entries.clockReads = 0)
  /-- No two calls share a reading: each has the one after those of the calls before it. -/
  fresh : s.KnowsIds → ∀ place made, (s.run before calls)[place]? = some made →
    made.before.clockReads = before.clockReads + place
  /-- What a call sends to the signer is a claim of the account at the time that the call read. -/
  dated : ∀ made ∈ s.run before calls, ∀ request ∈ made.entries.requestsTo .iam,
    ∃ account now payload, s.options.accountId s.credential = .ok account ∧
      s.reading made.before.clockReads = .ok now ∧
      Claims.payload (s.claimsAt account now).members = .ok payload ∧
      request.body = Json.render .body (.ofMembers [("payload", Json.ofString payload)])

end Session

/-! ## What a call asks for -/

namespace Journal

/-- Whether neither the supplier nor the clock is asked in entries. -/
structure IsOutward (journal : Journal) : Prop where
  /-- The supplier is not asked. -/
  inquiries : journal.inquiries = 0
  /-- No lookup is made. -/
  lookups : journal.lookups = 0
  /-- The clock is not read. -/
  clockReads : journal.clockReads = 0

/-- The inquiries of two stretches add up. -/
theorem inquiries_append (before after : Journal) :
    inquiries (before ++ after) = before.inquiries + after.inquiries :=
  List.count_append

/-- The lookups of two stretches add up. -/
theorem lookups_append (before after : Journal) :
    lookups (before ++ after) = before.lookups + after.lookups :=
  List.count_append

/-- The clock readings of two stretches add up. -/
theorem clockReads_append (before after : Journal) :
    clockReads (before ++ after) = before.clockReads + after.clockReads :=
  List.count_append

/-- Two outward stretches make an outward one. -/
theorem IsOutward.append {before after : Journal} (h : before.IsOutward) (h' : after.IsOutward) :
    IsOutward (before ++ after) where
  inquiries := by rw [inquiries_append, h.inquiries, h'.inquiries]
  lookups := by rw [lookups_append, h.lookups, h'.lookups]
  clockReads := by rw [clockReads_append, h.clockReads, h'.clockReads]

/-- Events are outward. -/
theorem isOutward_event (event : Event) : IsOutward [.event event] := ⟨rfl, rfl, rfl⟩

end Journal

/-- Having members signed asks nobody but the signer. -/
theorem Signer.Course.isOutward {s : Signer} {project account : Text} {claims : Json.Members}
    {token : Option Text} {earlier : Nat} {result : Except Failure String} {entries : Journal}
    (h : s.Course project account claims token earlier result entries) :
    Journal.IsOutward entries := by
  cases h <;> exact ⟨rfl, rfl, rfl⟩

/-- What is sent in a posting is the payload. -/
theorem Signer.content_posting (s : Signer) (resource : Text) (payload : String)
    (token : Option Text) : (s.posting resource payload token).content =
      Json.render .body (.ofMembers [("payload", Json.ofString payload)]) := rfl

/-- What is sent to have members signed is the request for that. -/
theorem Signer.Course.request_of_mem {s : Signer} {project account : Text} {claims : Json.Members}
    {token : Option Text} {earlier : Nat} {result : Except Failure String} {entries : Journal}
    (h : s.Course project account claims token earlier result entries) {request : Request}
    (hmem : request ∈ Journal.requestsTo .iam entries) :
    s.request (resource project account) claims token = .ok request := by
  cases h with
  | unwritten _ => simp [Journal.requestsTo] at hmem
  | unsent _ _ => simp [Journal.requestsTo] at hmem
  | refused hrequest _ =>
    obtain rfl : request = _ := by simpa [Journal.requestsTo] using hmem
    exact hrequest
  | signed hrequest _ =>
    obtain rfl : request = _ := by simpa [Journal.requestsTo] using hmem
    exact hrequest

/-- An exchange asks nobody but the transport. -/
theorem Transport.Course.isOutward {t : Transport} {method assertion mount role : Text}
    {before : Journal} {result : Except Failure Token} {entries : Journal}
    (h : t.Course method assertion mount role before result entries) :
    Journal.IsOutward entries := by
  cases h with
  | vault h => cases h <;> exact ⟨rfl, rfl, rfl⟩
  | custom => exact ⟨rfl, rfl, rfl⟩

namespace Session

variable {s : Session}

/-- Every call begins with having a claim signed, and what it does afterwards asks neither the
supplier nor the clock nor the signer. -/
theorem Goes.exists_signing {made : Made} (h : s.Goes made) :
    ∃ result signing later, s.Signing made.before result signing ∧
      made.entries = signing ++ later ∧ Journal.IsOutward later ∧
      Journal.requestsTo .iam later = [] := by
  cases h with
  | @sign before result signing h =>
    exact ⟨result, signing, [], h, (List.append_nil signing).symm, ⟨rfl, rfl, rfl⟩, rfl⟩
  | @login before result entries h =>
    cases h with
    | unsigned h => exact ⟨_, _, _, h, rfl, Journal.isOutward_event _, rfl⟩
    | @exchanged assertion signing _ exchange hsigning hexchange =>
      refine ⟨_, signing, exchange ++ [.event (lastEvent s.options result)], hsigning,
        List.append_assoc .., hexchange.isOutward.append (Journal.isOutward_event _), ?_⟩
      rw [requestsTo_append_event, hexchange.requestsTo_iam]

/-- Having a claim signed does not ask the supplier. -/
theorem Signing.unasked {before : Journal} {result : Except Failure String} {signing : Journal}
    (h : s.Signing before result signing) : signing.inquiries = 0 ∧ signing.lookups = 0 := by
  cases h with
  | noProject _ => exact ⟨rfl, rfl⟩
  | noAccount _ _ => exact ⟨rfl, rfl⟩
  | noTime _ _ _ => exact ⟨rfl, rfl⟩
  | asked _ _ _ h =>
    exact ⟨h.isOutward.inquiries, h.isOutward.lookups⟩

/-- Having a claim signed reads the clock once if both ids are known, and not at all if one is not. -/
theorem Signing.reads {before : Journal} {result : Except Failure String} {signing : Journal}
    (h : s.Signing before result signing) :
    (s.KnowsIds → signing.clockReads = 1) ∧ (¬ s.KnowsIds → signing.clockReads = 0) := by
  cases h with
  | noProject hproject =>
    refine ⟨?_, fun _ => rfl⟩
    rintro ⟨project, account, hknown, -⟩
    rw [hproject] at hknown
    cases hknown
  | noAccount _ haccount =>
    refine ⟨?_, fun _ => rfl⟩
    rintro ⟨project, account, -, hknown⟩
    rw [haccount] at hknown
    cases hknown
  | noTime hproject haccount _ =>
    exact ⟨fun _ => rfl, fun hunknown => absurd ⟨_, _, hproject, haccount⟩ hunknown⟩
  | @asked project account now _ entries hproject haccount _ h =>
    refine ⟨fun _ => ?_, fun hunknown => absurd ⟨_, _, hproject, haccount⟩ hunknown⟩
    have hone : Journal.clockReads (.clockRead :: entries) = entries.clockReads + 1 :=
      List.count_cons_self
    rw [hone, h.isOutward.clockReads]

/-- Whether a request asks to sign the claim of the account at the time that is read after what is in a
journal, with the token of the credential. -/
def Asks (s : Session) (before : Journal) (request : Request) : Prop :=
  ∃ project account now, s.options.accountId s.credential = .ok account ∧
    s.reading before.clockReads = .ok now ∧
    s.signer.request (Signer.resource project account) (s.claimsAt account now).members
      (s.credential.bind Credential.token) = .ok request

/-- What is sent to have a claim signed asks for that. -/
theorem Signing.asks {before : Journal} {result : Except Failure String} {signing : Journal}
    (h : s.Signing before result signing) {request : Request}
    (hmem : request ∈ Journal.requestsTo .iam signing) : s.Asks before request := by
  cases h with
  | noProject _ => simp [Journal.requestsTo] at hmem
  | noAccount _ _ => simp [Journal.requestsTo] at hmem
  | noTime _ _ _ => simp [Journal.requestsTo] at hmem
  | @asked project account now _ _ _ haccount hnow h =>
    exact ⟨project, account, now, haccount, hnow,
      h.request_of_mem (by simpa [Journal.requestsTo] using hmem)⟩

/-- What a call sends to the signer asks for that. -/
theorem Goes.asks {made : Made} (h : s.Goes made) {request : Request}
    (hmem : request ∈ made.entries.requestsTo .iam) : s.Asks made.before request := by
  obtain ⟨_, signing, later, hsigning, hentries, -, hlater⟩ := h.exists_signing
  rw [hentries, Journal.requestsTo_append, hlater, List.append_nil] at hmem
  exact hsigning.asks hmem

/-- What a call does reads the clock once if both ids are known, and not at all if one is not. -/
theorem Goes.reads {made : Made} (h : s.Goes made) :
    (s.KnowsIds → made.entries.clockReads = 1) ∧ (¬ s.KnowsIds → made.entries.clockReads = 0) := by
  obtain ⟨_, signing, later, hsigning, hentries, hlater, -⟩ := h.exists_signing
  have hreads : made.entries.clockReads = signing.clockReads := by
    rw [hentries, Journal.clockReads_append, hlater.clockReads, Nat.add_zero]
  rw [hreads]
  exact hsigning.reads

/-- If both ids are known, the calls of a run read the clock one after the other. -/
theorem clockReads_before (hknown : s.KnowsIds) {before : Journal} {calls : List Call} {place : Nat}
    {made : Made} (h : (s.run before calls)[place]? = some made) :
    made.before.clockReads = before.clockReads + place := by
  induction calls generalizing before place with
  | nil => simp [run] at h
  | cons call rest ih =>
    cases place with
    | zero =>
      obtain rfl : s.make before call = made := Option.some.inj h
      rfl
    | succ place =>
      have hreads : (s.make before call).entries.clockReads = 1 :=
        (s.make_goes before call).2.reads.1 hknown
      have hafter : (s.make before call).after.clockReads = before.clockReads + 1 := by
        rw [Made.after, Journal.clockReads_append, hreads]
        rfl
      rw [ih h, hafter, Nat.add_assoc, Nat.add_comm 1 place]

/-- The calls of a session are punctual, whatever they are and however they end. -/
theorem punctual (s : Session) (before : Journal) (calls : List Call) :
    s.Punctual before calls where
  unasked made hmem := by
    obtain ⟨_, signing, later, hsigning, hentries, hlater, -⟩ :=
      (goes_of_mem_run hmem).exists_signing
    rw [hentries, Journal.inquiries_append, Journal.lookups_append, hlater.inquiries,
      hlater.lookups]
    exact hsigning.unasked
  reads made hmem := (goes_of_mem_run hmem).reads
  fresh hknown place made hmade := clockReads_before hknown hmade
  dated made hmem request hrequest := by
    obtain ⟨project, account, now, haccount, hnow, hposted⟩ := (goes_of_mem_run hmem).asks hrequest
    obtain ⟨payload, hpayload, hposted⟩ := Signer.request_eq_ok_iff.mp hposted
    have hbody := Posting.body_of_request hposted
    rw [Signer.content_posting] at hbody
    exact ⟨account, now, payload, haccount, hnow, hpayload, hbody⟩

/-- Opening a session asks the supplier once if there is one, and what comes of it is the session or a
failure that is a matter of configuration. No call asks again, and every call reads the clock for
itself. -/
theorem start_once (o : Options) (signer : Signer) (transport : Transport)
    (systemTime : Nat → Moment) (before : Journal) :
    ∃ outcome entries,
      (start o signer transport systemTime).after before =
        (outcome.map fun credential => { options := o, credential, signer, transport, systemTime },
          before ++ entries) ∧
      entries.inquiries = (if o.supplier.isSome then 1 else 0) ∧
      Obtains before.lookups o.supplier outcome ∧
      (∀ failure, outcome = .error failure → failure.kind.isConfiguration = true) ∧
      ∀ credential, outcome = .ok credential → ∀ later calls,
        Punctual { options := o, credential, signer, transport, systemTime } later calls := by
  obtain ⟨outcome, hobtain, hobtains⟩ := exists_obtains o.supplier before
  refine ⟨outcome, (o.supplier.map Supplier.marks).getD [], ?_, ?_, hobtains, ?_, ?_⟩
  · rw [start_after, hobtain]
  · rcases o.supplier with _ | ⟨_ | _ | _⟩ <;> rfl
  · rintro failure rfl
    exact hobtains.isConfiguration
  · intro credential _ later calls
    exact punctual _ later calls

/-- A session that looked up its credential, and whose signer never answers. -/
def unanswered : Session where
  options :=
    { role := "role", mountPath := "gcp", validity := ⟨900000000⟩
      supplier := some (.guarded fun _ => .ok (some ⟨"account", "project", none, none⟩))
      account := none, project := none, clock := .system }
  credential := some ⟨"account", "project", none, none⟩
  signer := { address := "https://iam.example", endpoint := fun _ _ => .error .badHeader }
  transport := .custom fun _ _ _ _ _ => .error .badHeader
  systemTime := fun _ => ⟨1970, 1, 1, 0, 0, 0, 0, none⟩

/-- The lookup is made when the session is opened, and both calls read the clock though neither is
answered. -/
theorem start_once_unanswered :
    (start unanswered.options unanswered.signer unanswered.transport unanswered.systemTime).after
        [] = (.ok unanswered, [.inquiry, .lookup]) ∧
      unanswered.Punctual [.inquiry, .lookup] [.login, .sign] ∧
      ∀ made ∈ unanswered.run [.inquiry, .lookup] [.login, .sign], made.entries.clockReads = 1 := by
  have hopened : (start unanswered.options unanswered.signer unanswered.transport
      unanswered.systemTime).after [] = (.ok unanswered, [.inquiry, .lookup]) := rfl
  have hknown : unanswered.KnowsIds := ⟨"project", "account", rfl, rfl⟩
  obtain ⟨outcome, entries, hafter, -, -, -, hpunctual⟩ :=
    start_once unanswered.options unanswered.signer unanswered.transport unanswered.systemTime []
  rw [hopened] at hafter
  cases outcome with
  | error failure => cases hafter
  | ok credential =>
    obtain rfl : unanswered.credential = credential :=
      congrArg Session.credential (Except.ok.inj (congrArg Prod.fst hafter))
    have hcalls : unanswered.Punctual [.inquiry, .lookup] [.login, .sign] :=
      hpunctual unanswered.credential rfl [.inquiry, .lookup] [.login, .sign]
    exact ⟨hopened, hcalls, fun made hmem => (hcalls.reads made hmem).1 hknown⟩

end Session

end IamLogin
