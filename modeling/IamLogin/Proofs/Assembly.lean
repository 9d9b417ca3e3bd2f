import IamLogin.Proofs.Drafting
import IamLogin.Proofs.Fields
import IamLogin.Proofs.Opening
import IamLogin.Setup

/-!
# What can go wrong between settings and a session

Settings that passed their checks are written to a draft, the draft is built, and the session asks for
its credential. Each of these steps fails only for a matter of configuration, with one exception: the
seconds for which a claim is good have a lower bound in the settings but no upper one, and more of them
than a duration can hold make no draft at all. So all failures are matters of configuration exactly if
the seconds stay below that bound, and beyond it there is never a session.
-/

namespace IamLogin

namespace Settings

/-- Whether every setting is read of the value that is given for it, or left at its default. -/
structure IsReadFrom (settings : Settings) (given : String → Option Json) : Prop where
  /-- The service. -/
  serviceName : Field.allow "service_name" (Text.ofString "vault-gcp-auth") Field.text
    (given "service_name") = .valid settings.serviceName
  /-- The least level. -/
  logLevel : Field.allow "log_level" (Text.ofString "INFO") Field.text (given "log_level") =
    .valid settings.logLevel
  /-- The address of the vault. -/
  vaultAddress : Field.allow "vault_addr" (Text.ofString "http://127.0.0.1:8200") Field.text
    (given "vault_addr") = .valid settings.vaultAddress
  /-- The part of the vault. -/
  vaultNamespace : Field.allow "vault_namespace" none Field.text? (given "vault_namespace") =
    .valid settings.vaultNamespace
  /-- The mount path. -/
  mountPath : Field.allow "mount_path" defaultMountPath Field.text (given "mount_path") =
    .valid settings.mountPath
  /-- The role. -/
  role : Field.allow "role" [] Field.text (given "role") = .valid settings.role
  /-- The seconds for which a claim is good. -/
  validitySeconds : Field.allow "jwt_validity_seconds" 900 Field.positiveInteger
    (given "jwt_validity_seconds") = .valid settings.validitySeconds
  /-- The service account id. -/
  accountId : Field.allow "service_account_id" none Field.text? (given "service_account_id") =
    .valid settings.accountId
  /-- The project id. -/
  projectId : Field.allow "project_id" none Field.text? (given "project_id") =
    .valid settings.projectId
  /-- The address of the signer. -/
  signerAddress : Field.allow "iam_credentials_url" Signer.defaultAddress Field.text
    (given "iam_credentials_url") = .valid settings.signerAddress
  /-- The seconds for which an answer is awaited. -/
  timeoutSeconds : Field.allow "http_timeout_seconds" (Double.ofInt 10) Field.positiveDouble
    (given "http_timeout_seconds") = .valid settings.timeoutSeconds

/-- Settings that passed are read of what was given. -/
theorem isReadFrom_of_ofValues {given : String → Option Json} {settings : Settings}
    (h : ofValues given = .valid settings) : settings.IsReadFrom given := by
  simp only [ofValues, Checked.seq_eq_valid, Checked.map_eq_valid] at h
  -- The fields were checked from the left, so the last one stands outermost.
  obtain ⟨_, _, ⟨_, _, ⟨_, _, ⟨_, _, ⟨_, _, ⟨_, _, ⟨_, _, ⟨_, _, ⟨_, _, ⟨_, _, ⟨_, hservice, rfl⟩,
    hlevel, rfl⟩, hvault, rfl⟩, hnamespace, rfl⟩, hmount, rfl⟩, hrole, rfl⟩, hvalidity, rfl⟩,
    haccount, rfl⟩, hproject, rfl⟩, hsigner, rfl⟩, htimeout, rfl⟩ := h
  exact ⟨hservice, hlevel, hvault, hnamespace, hmount, hrole, hvalidity, haccount, hproject, hsigner,
    htimeout⟩

/-- Settings that were made are read of the values that count. -/
theorem isReadFrom_of_read {keywords : Json.Members} {environment : Environment}
    {settings : Settings} (h : read keywords environment = .ok settings) :
    settings.IsReadFrom (chosen? keywords environment) := by
  unfold read check at h
  split at h
  · case h_1 hcheck =>
    cases h
    exact isReadFrom_of_ofValues (Checked.alongside_eq_valid.mp hcheck).1
  · cases h

/-- An integer that passed as positive is positive. -/
theorem pos_of_positiveInteger {v : Json} {n : Int} (h : Field.positiveInteger v = .ok n) :
    0 < n := by
  obtain ⟨m, -, hm⟩ := except_bind_eq_ok.mp h
  split at hm
  · case isTrue hpos =>
    obtain rfl : m = n := Except.ok.inj hm
    exact hpos
  · cases hm

/-- In settings that were made, a claim is good for a positive number of seconds. -/
theorem validitySeconds_pos {keywords : Json.Members} {environment : Environment}
    {settings : Settings} (h : read keywords environment = .ok settings) :
    0 < settings.validitySeconds := by
  rcases Field.allow_eq_valid_iff.mp (isReadFrom_of_read h).validitySeconds with
    ⟨-, hdefault⟩ | ⟨v, -, hread⟩
  · rw [hdefault]
    decide
  · exact pos_of_positiveInteger hread

end Settings

namespace Duration

/-- The least number of seconds above zero that makes no duration. -/
def secondsLimit : Int := (dayLimit + 1) * secondsPerDay

/-- A positive number of seconds makes a duration exactly if it is below the limit. -/
theorem ofSeconds_of_pos {n : Int} (h : 0 < n) :
    (n < secondsLimit → ofSeconds n = .ok ⟨n * microsPerSecond⟩) ∧
      (secondsLimit ≤ n → ∃ fault, ofSeconds n = .error fault) := by
  have hlimit : secondsLimit = 86400000000000 := by decide
  have hdays : n.fdiv secondsPerDay = n / 86400 := Int.fdiv_eq_ediv_of_nonneg n (by decide)
  have hmax : dayLimit = 999999999 := rfl
  rw [hlimit]
  unfold ofSeconds
  dsimp only
  rw [hdays, hmax]
  constructor
  · intro hbelow
    rw [if_neg (by omega), if_neg (by omega)]
  · intro habove
    split
    · exact ⟨_, rfl⟩
    · split
      · exact ⟨_, rfl⟩
      · omega

end Duration

/-- A draft is refused for a matter of configuration. -/
theorem Draft.isConfiguration_of_build {history : List Change} {failure : Failure}
    (h : (applyAll {} history).build = .error failure) : failure.kind.isConfiguration = true := by
  obtain ⟨condition, -, rfl⟩ := ((build_iff history).2 failure).mp h
  cases condition <;> rfl

namespace Setup

/-- Settings whose seconds make a duration are drafted with it. -/
theorem options_of_ofSeconds {settings : Settings} {validity : Duration}
    (h : Duration.ofSeconds settings.validitySeconds = .ok validity) (supplier : Option Supplier) :
    options settings supplier =
      (Draft.applyAll {} (changes settings validity supplier)).build := by
  rw [options, h, mapError_ok, except_ok_bind]

/-- Settings whose seconds make no duration are not drafted. -/
theorem options_of_fault {settings : Settings} {fault : Duration.Fault}
    (h : Duration.ofSeconds settings.validitySeconds = .error fault) (supplier : Option Supplier) :
    options settings supplier = .error (.badDuration fault) := by
  rw [options, h, mapError_error, except_error_bind]

/-- A session is opened with the options in the settings, or not at all. -/
theorem session_after (settings : Settings) (supplier : Option Supplier) (iam vault : Endpoint)
    (systemTime : Nat → Moment) (before : Journal) :
    (session settings supplier iam vault systemTime).after before =
      match options settings supplier with
      | .error failure => (.error failure, before)
      | .ok o => (Session.start o ⟨settings.signerAddress, iam⟩
          (.vault ⟨settings.vaultAddress, settings.vaultNamespace, vault⟩) systemTime).after before := by
  rw [session, Action.after_bind, Action.after_ofExcept]
  cases options settings supplier <;> rfl

end Setup

/-- A session that does not open fails for a matter of configuration. -/
theorem Session.isConfiguration_of_start {o : Options} {signer : Signer} {transport : Transport}
    {systemTime : Nat → Moment} {before : Journal} {failure : Failure}
    (h : ((start o signer transport systemTime).after before).1 = .error failure) :
    failure.kind.isConfiguration = true := by
  obtain ⟨outcome, hobtain, hobtains⟩ := exists_obtains o.supplier before
  rw [start_after, hobtain] at h
  cases outcome with
  | ok credential => cases h
  | error other =>
    obtain rfl : other = failure := Except.error.inj h
    exact hobtains.isConfiguration

namespace Setup

/-- Whether whatever goes wrong is a matter of configuration. -/
def FailsOnlyInConfiguration {α : Type} (result : Except Failure α) : Prop :=
  ∀ failure, result = .error failure → failure.kind.isConfiguration = true

variable {keywords : Json.Members} {environment : Environment} {settings : Settings}

/-- Below the limit, what goes wrong with the options is a matter of configuration. -/
theorem options_failsOnlyInConfiguration (h : Settings.read keywords environment = .ok settings)
    (hlimit : settings.validitySeconds < Duration.secondsLimit) (supplier : Option Supplier) :
    FailsOnlyInConfiguration (options settings supplier) := by
  intro failure hfails
  rw [options_of_ofSeconds
    ((Duration.ofSeconds_of_pos (Settings.validitySeconds_pos h)).1 hlimit)] at hfails
  exact Draft.isConfiguration_of_build hfails

/-- If the options fail only for a matter of configuration, so does the session. -/
theorem session_failsOnlyInConfiguration {supplier : Option Supplier}
    (h : FailsOnlyInConfiguration (options settings supplier)) (iam vault : Endpoint)
    (systemTime : Nat → Moment) (before : Journal) :
    FailsOnlyInConfiguration ((session settings supplier iam vault systemTime).after before).1 := by
  intro failure hfails
  rw [session_after] at hfails
  cases hoptions : options settings supplier with
  | error other =>
    rw [hoptions] at hfails
    obtain rfl : other = failure := Except.error.inj hfails
    exact h _ hoptions
  | ok o =>
    rw [hoptions] at hfails
    exact Session.isConfiguration_of_start hfails

/-- Whatever the settings that were made and the supplier: opening a session fails only for a matter of
configuration exactly if a claim is good for fewer seconds than the limit. If not, neither options nor a
session come of the settings, nobody is asked for anything, and the failure is an overflow. -/
theorem session_failsOnlyInConfiguration_iff
    (h : Settings.read keywords environment = .ok settings) (supplier : Option Supplier)
    (iam vault : Endpoint) (systemTime : Nat → Moment) (before : Journal) :
    ((FailsOnlyInConfiguration (options settings supplier) ∧
        FailsOnlyInConfiguration
          ((session settings supplier iam vault systemTime).after before).1) ↔
      settings.validitySeconds < 86400000000000) ∧
    (¬ settings.validitySeconds < 86400000000000 → ∃ failure,
      options settings supplier = .error failure ∧
        (session settings supplier iam vault systemTime).after before = (.error failure, before) ∧
        failure.kind = .overflow ∧ failure.cause? = none) := by
  have hlimit : Duration.secondsLimit = 86400000000000 := by decide
  rw [← hlimit]
  have hbeyond : ¬ settings.validitySeconds < Duration.secondsLimit → ∃ failure,
      options settings supplier = .error failure ∧
        (session settings supplier iam vault systemTime).after before = (.error failure, before) ∧
        failure.kind = .overflow ∧ failure.cause? = none := by
    intro hnot
    obtain ⟨fault, hfault⟩ := (Duration.ofSeconds_of_pos (Settings.validitySeconds_pos h)).2
      (Int.not_lt.mp hnot)
    have hoptions := options_of_fault hfault supplier
    exact ⟨_, hoptions, by rw [session_after, hoptions], rfl, rfl⟩
  refine ⟨⟨?_, ?_⟩, hbeyond⟩
  · rintro ⟨honly, -⟩
    by_contra hnot
    obtain ⟨failure, hoptions, -, hkind, -⟩ := hbeyond hnot
    have hconfiguration := honly failure hoptions
    rw [hkind] at hconfiguration
    cases hconfiguration
  · intro hbelow
    have honly := options_failsOnlyInConfiguration h hbelow supplier
    exact ⟨honly, session_failsOnlyInConfiguration honly iam vault systemTime before⟩

/-- Keywords for a role and a validity. -/
def lasting (seconds : Int) : Json.Members :=
  [(Text.ofString "role", Json.ofString "r"), (Text.ofString "jwt_validity_seconds", .int seconds)]

/-- With the greatest validity that makes a duration, only the configuration can be at fault. -/
theorem session_failsOnlyInConfiguration_iff_greatest :
    ∃ settings, Settings.read (lasting 86399999999999) [] = .ok settings ∧
      FailsOnlyInConfiguration (options settings none) := by
  have hread : (Settings.read (lasting 86399999999999) []).toOption.map Settings.validitySeconds =
      some 86399999999999 := by decide +kernel
  obtain ⟨settings, hsettings, hseconds⟩ := toOption_map_eq_some.mp hread
  have hiff := session_failsOnlyInConfiguration_iff hsettings none
    (fun _ _ => .error .badHeader) (fun _ _ => .error .badHeader)
    (fun _ => ⟨1970, 1, 1, 0, 0, 0, 0, none⟩) []
  exact ⟨settings, hsettings, (hiff.1.mpr (by rw [hseconds]; decide)).1⟩

/-- With one second more the settings are made all the same, and what fails is no matter of
configuration. -/
theorem options_oneSecondMore :
    ∃ settings, Settings.read (lasting 86400000000000) [] = .ok settings ∧
      options settings none = .error (.badDuration (.tooManyDays 1000000000)) ∧
      ¬ FailsOnlyInConfiguration (options settings none) := by
  have hread : (Settings.read (lasting 86400000000000) []).toOption.map Settings.validitySeconds =
      some 86400000000000 := by decide +kernel
  obtain ⟨settings, hsettings, hseconds⟩ := toOption_map_eq_some.mp hread
  have hoptions : options settings none = .error (.badDuration (.tooManyDays 1000000000)) :=
    options_of_fault (by rw [hseconds]; decide) none
  refine ⟨settings, hsettings, hoptions, fun honly => ?_⟩
  have hkind := honly _ hoptions
  cases hkind

end Setup

end IamLogin
