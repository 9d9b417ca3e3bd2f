import IamLogin.Proofs.Run

/-!
# The trail of events

What a call reports agrees with what it gives. A login ends with one event that says whether it gave a
token, and for whom; if it failed for another reason than the one that every failed login gives, the
event names the kind of that reason. Before it there is an event for the signature, if there is a
signature, and one for the exchange, if the vault made it. The exchange may be reported and the login
fail all the same, because a lease may be no duration.

The order of the events is read off their names, so it can be seen without knowing which part reports
what.
-/

namespace IamLogin

namespace Journal

/-- The events of two stretches follow each other. -/
@[simp] theorem events_append (before after : Journal) :
    (before ++ after).events = before.events ++ after.events :=
  List.filterMap_append

/-- The names of the events reported. -/
def eventNames (journal : Journal) : List String := journal.events.map Event.name

/-- The names of the events of two stretches follow each other. -/
@[simp] theorem eventNames_append (before after : Journal) :
    (before ++ after).eventNames = before.eventNames ++ after.eventNames := by
  simp [eventNames]

/-- An event of another name at the end does not matter to whether a name was reported. -/
theorem mem_eventNames_append_event {name : String} {last : Event} (h : last.name ≠ name)
    (before : Journal) :
    name ∈ (before ++ [Effect.event last]).eventNames ↔ name ∈ before.eventNames := by
  simp [eventNames, events, h.symm]

end Journal

/-- Whether an event says how a login ended. -/
def Event.IsEnding (e : Event) : Prop :=
  e.name = "gcp_iam_login_succeeded" ∨ e.name = "gcp_iam_login_failed"

/-- The names of what is reported when something was to be signed. -/
def signingNames {α : Type} : Except Failure α → List String
  | .ok _ => ["jwt_signed"]
  | .error _ => []

/-- The names of what can be reported before a login ends. -/
def trails : List (List String) := [[], ["jwt_signed"], ["jwt_signed", "vault_login_succeeded"]]

namespace Session

/-- What an event says about a login with options `o`, whose steps end with `step` and which gives
`result`. -/
structure Ends (o : Options) (step : Except Failure Token) (result : Except Failure Answer)
    (last : Event) : Prop where
  /-- It says how the login ended. -/
  ending : last.IsEnding
  /-- The event has the mount path. -/
  mount : Entries.get? "mount_path" last.fields = some (some o.mountPath)
  /-- The event has the role. -/
  role : Entries.get? "role" last.fields = some (some o.role)
  /-- It tells of a success exactly if the login gives a token. -/
  succeeded : last.name = "gcp_iam_login_succeeded" ∧ last.level = .info ↔
    ∃ token, result = .ok (.token token)
  /-- It tells of a failure exactly if the login fails. -/
  failed : last.name = "gcp_iam_login_failed" ∧ last.level = .warning ↔
    ∃ reported, result = .error reported
  /-- If the login fails, so did a step. The kind of its failure is named exactly if it is not the
  kind of a failed login, and then this failure is the one behind the failure of the login. -/
  error : ∀ reported, result = .error reported → ∃ failure, step = .error failure ∧
    (failure.kind.isAuthentication = true → Entries.get? "error" last.fields = none) ∧
    (failure.kind.isAuthentication = false → ∃ cause, reported.cause? = some cause ∧
      Entries.get? "error" last.fields = some (some (Text.ofString cause.kind.name)))

/-- What is true of a call whose events agree with its outcome. -/
structure Traced (s : Session) (made : Made) : Prop where
  /-- A login ends with the event that says how it ended, which is the only one of its sort, and
  nothing comes before it but the signature and then the exchange. -/
  login : made.call = .login → ∃ earlier last, made.entries.events = earlier ++ [last] ∧
    (∀ event ∈ earlier, ¬ event.IsEnding) ∧
    earlier.map Event.name ∈ trails ∧
    Ends s.options (s.attempt.after made.before).1 made.result last
  /-- The signature is reported exactly if there is one. -/
  signed : "jwt_signed" ∈ made.entries.eventNames ↔
    ∃ assertion, (s.signedClaim.after made.before).1 = .ok assertion
  /-- No exchange is reported without a signature. -/
  exchanged : "vault_login_succeeded" ∈ made.entries.eventNames →
    "jwt_signed" ∈ made.entries.eventNames
  /-- If a signature is all that is asked for, it is reported once, and a failure is not reported. -/
  sign : made.call = .sign → made.entries.eventNames = signingNames made.result

end Session

/-! ## What is reported on the way -/

/-- The signer reports signatures, and nothing else. -/
theorem Signer.Course.eventNames {s : Signer} {project account : Text} {claims : Json.Members}
    {token : Option Text} {earlier : Nat} {result : Except Failure String} {entries : Journal}
    (h : s.Course project account claims token earlier result entries) :
    entries.eventNames = signingNames result := by
  cases h <;> rfl

/-- A course of the signer decides its outcome. -/
theorem Signer.Course.unique {s : Signer} {project account : Text} {claims : Json.Members}
    {token : Option Text} {earlier : Nat} {result result' : Except Failure String}
    {entries entries' : Journal}
    (h : s.Course project account claims token earlier result entries)
    (h' : s.Course project account claims token earlier result' entries') : result = result' := by
  cases h <;> cases h' <;> simp_all [Signer.request]

/-- A transport reports that the vault made the exchange, or nothing. -/
theorem Transport.Course.eventNames {t : Transport} {method assertion mount role : Text}
    {before : Journal} {result : Except Failure Token} {entries : Journal}
    (h : t.Course method assertion mount role before result entries) :
    entries.eventNames = [] ∨ entries.eventNames = ["vault_login_succeeded"] := by
  cases h with
  | vault h =>
    cases h with
    | unsent _ => exact .inl rfl
    | refused _ _ => exact .inl rfl
    | granted _ _ => exact .inr rfl
  | custom => exact .inl rfl

namespace Session

variable {s : Session} {before : Journal}

/-- Having a claim signed reports the signature, if there is one. -/
theorem Signing.eventNames {result : Except Failure String} {entries : Journal}
    (h : s.Signing before result entries) : entries.eventNames = signingNames result := by
  cases h with
  | noProject _ => rfl
  | noAccount _ _ => rfl
  | noTime _ _ _ => rfl
  | asked _ _ _ h => exact h.eventNames

/-- The way in which having a claim signed goes decides its outcome. -/
theorem Signing.unique {result result' : Except Failure String} {entries entries' : Journal}
    (h : s.Signing before result entries) (h' : s.Signing before result' entries') :
    result = result' := by
  cases h <;> cases h' <;> simp_all
  case asked h _ _ _ h' => exact h.unique h'

/-- The way in which having a claim signed goes is the one in which it does go. -/
theorem Signing.after {result : Except Failure String} {entries : Journal}
    (h : s.Signing before result entries) : (s.signedClaim.after before).1 = result := by
  obtain ⟨result', entries', hafter, h'⟩ := s.exists_signing before
  rw [hafter]
  exact h'.unique h

/-- The signature is reported by the steps of a login exactly if there is one, and nothing else is but
the exchange. -/
theorem Steps.eventNames {result : Except Failure Token} {entries : Journal}
    (h : s.Steps before result entries) :
    entries.eventNames ∈ trails ∧
      ("jwt_signed" ∈ entries.eventNames ↔
        ∃ assertion, (s.signedClaim.after before).1 = .ok assertion) := by
  cases h with
  | unsigned hsigning =>
    rw [hsigning.eventNames, hsigning.after]
    simp [signingNames, trails]
  | exchanged hsigning hexchange =>
    rw [Journal.eventNames_append, hsigning.eventNames, hsigning.after]
    rcases hexchange.eventNames with hnames | hnames <;> simp [hnames, signingNames, trails]

/-- None of what can be reported before a login ends says how it ended. -/
theorem not_isEnding_of_mem {earlier : List Event} (h : earlier.map Event.name ∈ trails)
    {event : Event} (hmem : event ∈ earlier) : ¬ event.IsEnding := by
  have hname : event.name = "jwt_signed" ∨ event.name = "vault_login_succeeded" := by
    have hnames : event.name ∈ earlier.map Event.name := List.mem_map_of_mem hmem
    simp only [trails, List.mem_cons, List.not_mem_nil, or_false] at h
    rcases h with h | h | h <;> simp_all
  unfold Event.IsEnding
  rcases hname with hname | hname <;> simp [hname]

/-- The last event of a login says how it ended. -/
theorem ends_lastEvent (o : Options) (step : Except Failure Token) :
    Ends o step ((step.mapError explain).map .token) (lastEvent o step) := by
  cases step with
  | ok token =>
    refine ⟨.inl rfl, rfl, rfl, ?_, ?_, ?_⟩
    · exact ⟨fun _ => ⟨token, rfl⟩, fun _ => ⟨rfl, rfl⟩⟩
    · constructor
      · intro h
        simp [lastEvent, Event.succeeded] at h
      · rintro ⟨reported, h⟩
        cases h
    · intro reported h
      cases h
  | error failure =>
    refine ⟨.inr rfl, rfl, rfl, ?_, ?_, ?_⟩
    · constructor
      · intro h
        simp [lastEvent, failureEvent, Event.failed] at h
      · rintro ⟨token, h⟩
        cases h
    · exact ⟨fun _ => ⟨explain failure, rfl⟩, fun _ => ⟨rfl, rfl⟩⟩
    · intro reported h
      obtain rfl : explain failure = reported := Except.error.inj h
      refine ⟨failure, rfl, fun hkind => ?_, fun hkind => ⟨failure, ?_, ?_⟩⟩
      · simp [lastEvent, failureEvent, hkind, Event.failed, Entries.get?]
      · simp [explain, hkind, Failure.cause?]
      · simp [lastEvent, failureEvent, hkind, Event.failed, Entries.get?]

/-- The last event of a login tells neither of a signature nor of an exchange. -/
theorem lastEvent_name_ne (o : Options) (step : Except Failure Token) :
    (lastEvent o step).name ≠ "jwt_signed" ∧ (lastEvent o step).name ≠ "vault_login_succeeded" := by
  cases step <;> simp [lastEvent, failureEvent, Event.succeeded, Event.failed]

/-- What a signing call reports agrees with what it gives. -/
theorem traced_sign (s : Session) (before : Journal) : s.Traced (s.make before .sign) := by
  obtain ⟨result, entries, hafter, hsigning⟩ := s.exists_signing before
  rw [make_of_after (call_sign_after hafter)]
  refine
    { login := fun h => by cases h
      signed := ?_
      exchanged := ?_
      sign := fun _ => ?_ }
  · rw [hafter, hsigning.eventNames]
    cases result <;> simp [signingNames]
  · rw [hsigning.eventNames]
    cases result <;> simp [signingNames]
  · rw [hsigning.eventNames]
    cases result <;> rfl

/-- What a login reports agrees with what it gives. -/
theorem traced_login (s : Session) (before : Journal) : s.Traced (s.make before .login) := by
  obtain ⟨result, entries, hattempt, hsteps⟩ := s.exists_attempt before
  obtain ⟨htrail, hsigned⟩ := hsteps.eventNames
  obtain ⟨hnotSigned, hnotExchanged⟩ := lastEvent_name_ne s.options result
  rw [make_of_after (call_login_after hattempt)]
  refine
    { login := fun _ => ⟨entries.events, lastEvent s.options result, ?_,
        fun event => not_isEnding_of_mem htrail, htrail, ?_⟩
      signed := ?_
      exchanged := ?_
      sign := fun h => by cases h }
  · rw [Journal.events_append]
    rfl
  · rw [hattempt]
    exact ends_lastEvent s.options result
  · rw [Journal.mem_eventNames_append_event hnotSigned]
    exact hsigned
  · rw [Journal.mem_eventNames_append_event hnotSigned,
      Journal.mem_eventNames_append_event hnotExchanged]
    simp only [trails, List.mem_cons, List.not_mem_nil, or_false] at htrail
    rcases htrail with htrail | htrail | htrail <;> simp [htrail]

/-- A session whose vault makes the exchange, for a lease that is no duration. -/
def endless : Session where
  options :=
    { role := "role", supplier := none, mountPath := "gcp", validity := ⟨900000000⟩
      account := some (Accessor.constant (some "account"))
      project := some (Accessor.constant (some "project")), clock := .system }
  credential := none
  signer :=
    { address := "https://iam.example"
      endpoint := fun _ _ => .ok
        { status := ⟨200⟩, headers := []
          body := Utf8.encode (Json.render .body (.ofMembers
            [("signedJwt", Json.ofString "jwt"), ("keyId", Json.ofString "key")])).toList } }
  transport := .vault
    { address := "https://vault.example", space := none
      endpoint := fun _ _ => .ok
        { status := ⟨200⟩, headers := []
          body := Utf8.encode (Json.render .body (.ofMembers [("auth", .ofMembers
            [("client_token", Json.ofString "t"), ("lease_duration", .int 86400000000000)])])).toList } }
  systemTime := fun _ => ⟨1970, 1, 1, 0, 0, 0, 0, none⟩

end Session

end IamLogin
