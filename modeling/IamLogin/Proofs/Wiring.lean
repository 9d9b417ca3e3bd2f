import IamLogin.Proofs.Assembly

/-!
# What settings become

Settings are written to a draft in the order of the fields, an id only if there is something in it. So the
draft fails for three of the four conditions on options: the seconds of the settings are positive, and the
validity can never be too short. What is built holds the settings as they are, and each of the two ids is
that of the settings, if there is one, and else that of the credential, whatever holds for the other.
-/

namespace IamLogin

/-- Whether an id is not given: it is absent or empty. -/
def IsMissing (id : Option Text) : Prop := id = none ∨ id = some []

/-- What is found out as an id, by what is set for it and by what the credential says, if there is one. -/
inductive Resolves (set said : Option Text) : Except Failure Text → Prop
  /-- What is set counts. -/
  | set {id : Text} : set = some id → id ≠ [] → Resolves set said (.ok id)
  /-- If nothing is set, what the credential says counts. -/
  | said {id : Text} : IsMissing set → said = some id → id ≠ [] → Resolves set said (.ok id)
  /-- An empty id is none. -/
  | empty {failure : Failure} :
    IsMissing set → said = some [] → failure.kind = .resolution → Resolves set said (.error failure)
  /-- Nor is there one without a credential. -/
  | nobody {failure : Failure} :
    IsMissing set → said = none → failure.kind = .resolution → Resolves set said (.error failure)

/-- An id that is set is found, whatever the credential says. -/
theorem Resolves.eq_of_set {id : Text} {said : Option Text} {result : Except Failure Text}
    (h : Resolves (some id) said result) (hid : id ≠ []) : result = .ok id := by
  have hnot : ¬ IsMissing (some id) := by simp [IsMissing, hid]
  cases h with
  | set hset _ => rw [Option.some.inj hset]
  | said hmissing _ _ => exact absurd hmissing hnot
  | empty hmissing _ _ => exact absurd hmissing hnot
  | nobody hmissing _ _ => exact absurd hmissing hnot

/-- If none is set, the id is found that the credential says. -/
theorem Resolves.eq_of_said {set : Option Text} {id : Text} {result : Except Failure Text}
    (h : Resolves set (some id) result) (hset : IsMissing set) (hid : id ≠ []) : result = .ok id := by
  cases h with
  | set hset' hid' =>
    subst hset'
    simp [IsMissing, hid'] at hset
  | said _ hsaid _ => rw [Option.some.inj hsaid]
  | empty _ hsaid _ => exact absurd (Option.some.inj hsaid) hid
  | nobody _ hsaid _ => cases hsaid

/-- If none is set, there is none to find without a credential. -/
theorem Resolves.error_of_nobody {set : Option Text} {result : Except Failure Text}
    (h : Resolves set none result) (hset : IsMissing set) :
    ∃ failure, result = .error failure ∧ failure.kind = .resolution := by
  cases h with
  | set hset' hid' =>
    subst hset'
    simp [IsMissing, hid'] at hset
  | said _ hsaid _ => cases hsaid
  | empty _ hsaid _ => cases hsaid
  | nobody _ _ hkind => exact ⟨_, rfl, hkind⟩

/-- A text is an id unless it is empty. -/
theorem Subject.check_str (subject : Subject) (id : Text) :
    subject.check (.ok (.str id)) =
      if id = [] then .error (.unusableId subject (.str id)) else .ok id := by
  simp only [check, List.isEmpty_iff]

/-- An id in a credential. -/
def Credential.idOf (c : Credential) : Subject → Text
  | .project => c.projectId
  | .account => c.clientEmail

namespace Setup

/-- The way to an id that is set, unless it counts as not given. -/
def wayTo (set : Option Text) : Option Accessor :=
  (set.filter (!·.isEmpty)).map fun id => .constant (some id)

/-- An id leads nowhere exactly if it is not given. -/
theorem wayTo_cases (set : Option Text) :
    IsMissing set ∧ wayTo set = none ∨
      ∃ id, id ≠ [] ∧ set = some id ∧ wayTo set = some (.constant (some id)) := by
  cases set with
  | none => exact .inl ⟨.inl rfl, rfl⟩
  | some id =>
    by_cases hid : id = []
    · subst hid
      exact .inl ⟨.inr rfl, rfl⟩
    · refine .inr ⟨id, hid, rfl, ?_⟩
      have hfull : id.isEmpty = false := by simpa using hid
      simp [wayTo, Option.filter, hfull]

/-- There is a way to an id of its own exactly if it is not missing. -/
theorem isSome_wayTo_iff (set : Option Text) : (wayTo set).isSome = true ↔ ¬ IsMissing set := by
  rcases wayTo_cases set with ⟨hmissing, hway⟩ | ⟨id, hid, rfl, hway⟩
  · simp [hmissing, hway]
  · simp [IsMissing, hid, hway]

/-- What is found out along the way to an id that is set. -/
theorem resolves_resolve (subject : Subject) (set : Option Text) (credential : Option Credential) :
    Resolves set (credential.map (Credential.idOf · subject))
      (subject.resolve (wayTo set) credential) := by
  rcases wayTo_cases set with ⟨hmissing, hway⟩ | ⟨id, hid, rfl, hway⟩
  · have hpart : ∀ c : Credential, subject.fromCredential (some c) =
        .ok (.str (c.idOf subject)) := by
      intro c
      cases subject <;> rfl
    rw [Subject.resolve, hway, Option.getD_none]
    cases credential with
    | none =>
      have hfails : ∃ failure, subject.check (subject.fromCredential none) = .error failure ∧
          failure.kind = .resolution := by
        cases subject <;> exact ⟨_, rfl, rfl⟩
      obtain ⟨failure, heq, hkind⟩ := hfails
      rw [heq]
      exact .nobody hmissing rfl hkind
    | some c =>
      rw [hpart, Subject.check_str]
      split
      · case isTrue hempty => exact .empty hmissing (congrArg some hempty) rfl
      · case isFalse hid => exact .said hmissing rfl hid
  · have hconstant : Accessor.constant (some id) credential = .ok (.str id) := rfl
    rw [Subject.resolve, hway, Option.getD_some, hconstant, Subject.check_str, if_neg hid]
    exact .set rfl hid

/-- The draft that is made of settings. -/
def drafted (settings : Settings) (validity : Duration) (supplier : Option Supplier) : Draft where
  role := some settings.role
  mountPath := some settings.mountPath
  validity := validity
  supplier := supplier
  account := wayTo settings.accountId
  project := wayTo settings.projectId

/-- What is written for settings makes that draft. -/
theorem applyAll_changes (settings : Settings) (validity : Duration) (supplier : Option Supplier) :
    Draft.applyAll {} (changes settings validity supplier) = drafted settings validity supplier := by
  have hgiven : ∀ id : Option Text,
      id.toList.filter (!·.isEmpty) = (id.filter (!·.isEmpty)).toList := by
    intro id
    cases id with
    | none => rfl
    | some id => cases hempty : id.isEmpty <;> simp [Option.filter, hempty]
  simp only [changes, drafted, wayTo, hgiven]
  cases supplier <;> cases settings.accountId.filter (!·.isEmpty) <;>
    cases settings.projectId.filter (!·.isEmpty) <;> rfl

/-- The last values that are written for settings stand in that draft. -/
theorem last_changes {β : Type} (slot : Draft.Slot β) (settings : Settings) (validity : Duration)
    (supplier : Option Supplier) :
    slot.last (changes settings validity supplier) =
      slot.held (drafted settings validity supplier) := by
  rw [← Draft.Slot.held_eq_last, applyAll_changes]

/-- Whether nothing can be made of settings. -/
inductive IsUnusable (settings : Settings) (supplier : Option Supplier) : Prop
  /-- The role is blank. -/
  | role : (∀ c ∈ settings.role, c.isBlank = true) → IsUnusable settings supplier
  /-- Nobody supplies a credential, and an id is not given. -/
  | identity : supplier = none → IsMissing settings.accountId ∨ IsMissing settings.projectId →
    IsUnusable settings supplier
  /-- The mount path has nothing but slashes. -/
  | mountPath : (∀ c ∈ settings.mountPath, c = .char '/') → IsUnusable settings supplier

/-- Whether options are those of settings. -/
structure Wires (settings : Settings) (supplier : Option Supplier) (o : Options) : Prop where
  /-- The role is kept. -/
  role : o.role = settings.role
  /-- The mount path is kept but for the slashes at its ends. -/
  mountPath : IsTrimmed (.char '/') settings.mountPath o.mountPath
  /-- A claim is good for as many seconds. -/
  validity : o.validity.micros = settings.validitySeconds * 1000000
  /-- The supplier is kept. -/
  supplier : o.supplier = supplier
  /-- The service account id is the one that is set, or that of the credential. -/
  account : ∀ credential, Resolves settings.accountId
    (credential.map Credential.clientEmail) (o.accountId credential)
  /-- So is the project id. -/
  project : ∀ credential, Resolves settings.projectId
    (credential.map Credential.projectId) (o.projectId credential)
  /-- The time is that of the system. -/
  clock : o.clock = .system

variable {keywords : Json.Members} {environment : Environment} {settings : Settings}
  {validity : Duration}

/-- A second is not too short. -/
theorem met_validity (hvalidity : 1000000 ≤ validity.micros) (supplier : Option Supplier) :
    Draft.Condition.validity.Met (changes settings validity supplier) := by
  change 1000000 ≤ (Draft.Slot.validity.last _).micros
  rw [last_changes]
  exact hvalidity

/-- What is written for settings meets the conditions on options exactly if the settings are usable. -/
theorem met_iff (hvalidity : 1000000 ≤ validity.micros) (supplier : Option Supplier) :
    (∀ condition : Draft.Condition, condition.Met (changes settings validity supplier)) ↔
      ¬ IsUnusable settings supplier := by
  have haccount : Draft.Slot.account.IsWritten (changes settings validity supplier) ↔
      ¬ IsMissing settings.accountId := by
    rw [← Draft.Slot.isSome_account_iff, last_changes]
    exact isSome_wayTo_iff settings.accountId
  have hproject : Draft.Slot.project.IsWritten (changes settings validity supplier) ↔
      ¬ IsMissing settings.projectId := by
    rw [← Draft.Slot.isSome_project_iff, last_changes]
    exact isSome_wayTo_iff settings.projectId
  constructor
  · rintro hmet (hblank | ⟨hnobody, hmissing⟩ | hslashes)
    · obtain ⟨text, htext, c, hc, hnot⟩ := hmet .role
      rw [last_changes] at htext
      obtain rfl : settings.role = text := Option.some.inj htext
      rw [hblank c hc] at hnot
      cases hnot
    · rcases hmet .identity with hsupplier | ⟨hwritten, hwritten'⟩
      · exact hsupplier ((last_changes ..).trans hnobody)
      · exact hmissing.elim (haccount.mp hwritten) (hproject.mp hwritten')
    · obtain ⟨text, htext, c, hc, hnot⟩ := hmet .mountPath
      rw [last_changes] at htext
      obtain rfl : settings.mountPath = text := Option.some.inj htext
      exact hnot (hslashes c hc)
  · intro husable condition
    cases condition with
    | role =>
      have hsome : ¬ ∀ c ∈ settings.role, c.isBlank = true := fun h => husable (.role h)
      simp only [not_forall, Bool.not_eq_true] at hsome
      obtain ⟨c, hc, hnot⟩ := hsome
      exact ⟨settings.role, last_changes .., c, hc, hnot⟩
    | identity =>
      by_cases hnobody : supplier = none
      · have hgiven := not_or.mp fun h => husable (.identity hnobody h)
        exact .inr ⟨haccount.mpr hgiven.1, hproject.mpr hgiven.2⟩
      · refine .inl fun h => hnobody ?_
        rwa [last_changes] at h
    | validity => exact met_validity hvalidity supplier
    | mountPath =>
      have hsome : ¬ ∀ c ∈ settings.mountPath, c = .char '/' := fun h => husable (.mountPath h)
      simp only [not_forall] at hsome
      obtain ⟨c, hc, hnot⟩ := hsome
      exact ⟨settings.mountPath, last_changes .., c, hc, hnot⟩

/-- What was built from what is written for settings is what the settings say. -/
theorem wires_of_carries {supplier : Option Supplier} {o : Options}
    (h : Draft.Carries (changes settings validity supplier) o)
    (hmicros : validity.micros = settings.validitySeconds * 1000000) :
    Wires settings supplier o := by
  obtain ⟨hrole, ⟨path, hpath, htrimmed⟩, hvalidity, hsupplier, haccount, hproject, hclock⟩ := h
  rw [last_changes] at hrole hpath hvalidity hsupplier haccount hproject hclock
  obtain rfl : settings.mountPath = path := Option.some.inj hpath
  exact
    { role := (Option.some.inj hrole).symm
      mountPath := htrimmed
      validity := by rw [← hvalidity]; exact hmicros
      supplier := hsupplier.symm
      account := fun credential => by
        rw [Options.accountId, ← haccount]
        exact resolves_resolve .account settings.accountId credential
      project := fun credential => by
        rw [Options.projectId, ← hproject]
        exact resolves_resolve .project settings.projectId credential
      clock := hclock.symm }

/-- Options made of settings whose seconds make a duration: they fail for a matter of configuration exactly
if the settings are unusable, never for too short a validity, and never otherwise; and what is made of
usable settings holds what they say. -/
theorem options_wires (h : Settings.read keywords environment = .ok settings)
    (hfits : ∃ validity, Duration.ofSeconds settings.validitySeconds = .ok validity)
    (supplier : Option Supplier) :
    ((∃ failure, options settings supplier = .error failure ∧ failure.kind = .configuration) ↔
        IsUnusable settings supplier) ∧
      (∀ failure, options settings supplier = .error failure →
        failure.kind = .configuration ∧ failure.cause? = none ∧ failure ≠ .shortValidity) ∧
      (¬ IsUnusable settings supplier →
        ∃ o, options settings supplier = .ok o ∧ Wires settings supplier o) := by
  obtain ⟨validity, hvalidity⟩ := hfits
  have hpos := Settings.validitySeconds_pos h
  have hmicros : validity.micros = settings.validitySeconds * 1000000 := by
    obtain ⟨hbelow, hbeyond⟩ := Duration.ofSeconds_of_pos hpos
    by_cases hlimit : settings.validitySeconds < Duration.secondsLimit
    · obtain rfl := Except.ok.inj (hvalidity.symm.trans (hbelow hlimit))
      rfl
    · obtain ⟨fault, hfault⟩ := hbeyond (Int.not_lt.mp hlimit)
      rw [hvalidity] at hfault
      cases hfault
  have hleast : 1000000 ≤ validity.micros := by omega
  have husable : (∀ condition : Draft.Condition,
      condition.Met (changes settings validity supplier)) ↔ ¬ IsUnusable settings supplier :=
    met_iff hleast supplier
  obtain ⟨hbuilds, hfails⟩ := Draft.build_iff (changes settings validity supplier)
  rw [options_of_ofSeconds hvalidity]
  refine ⟨⟨?_, fun hunusable => ?_⟩, fun failure hfailure => ?_, fun hnot => ?_⟩
  · rintro ⟨failure, hfailure, -⟩
    obtain ⟨condition, hunmet, -⟩ := (hfails failure).mp hfailure
    by_contra hnot
    exact hunmet.1 (husable.mpr hnot condition)
  · rcases Draft.Condition.met_or_isFirstUnmet (changes settings validity supplier) with
      hmet | ⟨condition, hunmet⟩
    · exact absurd hunusable (husable.mp hmet)
    · exact ⟨_, (hfails _).mpr ⟨condition, hunmet, rfl⟩, by cases condition <;> rfl⟩
  · obtain ⟨condition, hunmet, rfl⟩ := (hfails failure).mp hfailure
    cases condition with
    | validity => exact absurd (met_validity hleast supplier) hunmet.1
    | role => exact ⟨rfl, rfl, nofun⟩
    | identity => exact ⟨rfl, rfl, nofun⟩
    | mountPath => exact ⟨rfl, rfl, nofun⟩
  · obtain ⟨o, hbuild, hcarries⟩ := Draft.build_of_met (husable.mpr hnot)
    exact ⟨o, hbuild, wires_of_carries hcarries hmicros⟩

/-- Keywords for a project and an empty account. -/
def halfGiven : Json.Members :=
  [(Text.ofString "role", Json.ofString " r"), (Text.ofString "mount_path", Json.ofString "/team/gcp/"),
    (Text.ofString "service_account_id", Json.ofString ""),
    (Text.ofString "project_id", Json.ofString "mine")]

/-- A credential of another project. -/
def other : Credential where
  clientEmail := "a@b"
  projectId := "theirs"
  privateKeyId := none
  token := none

/-- The project of the settings counts, and the account of the credential. -/
theorem options_wires_halfGiven :
    ∃ settings, Settings.read halfGiven [] = .ok settings ∧
      (∃ validity, Duration.ofSeconds settings.validitySeconds = .ok validity) ∧
      ∃ o, options settings (some (.fixed (some other))) = .ok o ∧
        o.role = " r" ∧ o.validity.micros = 900000000 ∧ o.accountId (some other) = .ok "a@b" ∧
        o.projectId (some other) = .ok "mine" ∧ o.projectId none = .ok "mine" ∧
        ∃ failure, o.accountId none = .error failure ∧ failure.kind = .resolution := by
  have hread : (Settings.read halfGiven []).toOption.map
      (fun s => ((s.role, s.mountPath), s.validitySeconds, s.accountId, s.projectId)) =
      some ((Text.ofString " r", Text.ofString "/team/gcp/"), 900, some [],
        some (Text.ofString "mine")) := by decide +kernel
  obtain ⟨settings, hsettings, hfields⟩ := toOption_map_eq_some.mp hread
  simp only [Prod.mk.injEq] at hfields
  obtain ⟨⟨hrole, hmount⟩, hseconds, haccount, hproject⟩ := hfields
  have hfits : ∃ validity, Duration.ofSeconds settings.validitySeconds = .ok validity := by
    rw [hseconds]
    exact ⟨_, rfl⟩
  have husable : ¬ IsUnusable settings (some (.fixed (some other))) := by
    rintro (hblank | ⟨hnobody, -⟩ | hslashes)
    · rw [hrole] at hblank
      exact absurd (hblank (.char 'r') (by decide)) (by decide)
    · cases hnobody
    · rw [hmount] at hslashes
      exact absurd (hslashes (.char 't') (by decide)) (by decide)
  obtain ⟨-, -, hbuilt⟩ := options_wires hsettings hfits (some (.fixed (some other)))
  obtain ⟨o, hoptions, hwires⟩ := hbuilt husable
  have haccounts := hwires.account
  have hprojects := hwires.project
  rw [haccount] at haccounts
  rw [hproject] at hprojects
  refine ⟨settings, hsettings, hfits, o, hoptions, hwires.role.trans hrole, ?_,
    (haccounts (some other)).eq_of_said (.inr rfl) (by decide),
    (hprojects (some other)).eq_of_set (by decide), (hprojects none).eq_of_set (by decide),
    (haccounts none).error_of_nobody (.inr rfl)⟩
  rw [hwires.validity, hseconds]
  rfl

end Setup

end IamLogin
