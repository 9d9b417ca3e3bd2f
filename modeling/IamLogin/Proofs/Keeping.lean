import IamLogin.Proofs.Action
import IamLogin.Settings.Store
import Mathlib.Data.List.Induction

/-!
# Which settings a process keeps

A process that is asked for its settings gives those of the environment as it was when it was first
asked in vain no longer: at the first asking that succeeded since it was last told to forget. Until
then every asking reads the environment as it is, and one that fails leaves no trace. What is set or
removed in between, and what settings are made with keywords, changes nothing of this.

All of it is said of the history of steps alone. The invariant behind it says of the settings that are
kept after a history when they were made.
-/

namespace IamLogin.SettingsStore

/-- The store after steps. -/
def after (s : SettingsStore) (steps : List Step) : SettingsStore :=
  steps.foldl (fun s step => (s.step step).2) s

/-- What a step answers after the steps before it, from the start of a process. -/
def answer (before : List Step) (step : Step) : Option (Except Failure Settings) :=
  ((({} : SettingsStore).after before).step step).1

/-- What a step makes of an environment. Only setting and removing a variable changes it. -/
def Step.alter (environment : Environment) : Step → Environment
  | .set name value => Entries.put name value environment
  | .unset name => Entries.erase name environment
  | .clear | .get | .make _ => environment

/-- The environment that steps leave, from the start of a process. -/
def environmentOf (steps : List Step) : Environment := steps.foldl Step.alter []

/-- Whether no asking among steps succeeded since the settings were last forgotten. -/
def NoneSucceeded (steps : List Step) : Prop :=
  ∀ early late, steps = early ++ .get :: late → .clear ∉ late →
    ∃ failure, answer early .get = some (.error failure)

/-- Whether the asking after the steps `early` is the first among steps that succeeded since the
settings were last forgotten. -/
structure IsFirstSuccess (steps early : List Step) : Prop where
  /-- It is an asking, and the settings were not forgotten after it. -/
  asked : ∃ late, steps = early ++ .get :: late ∧ .clear ∉ late
  /-- It succeeded. -/
  succeeded : ∃ settings, answer early .get = some (.ok settings)
  /-- No other did before it. -/
  first : NoneSucceeded early

/-! ## Histories -/

/-- Steps can be taken in two stretches. -/
theorem after_append (s : SettingsStore) (steps more : List Step) :
    s.after (steps ++ more) = (s.after steps).after more :=
  List.foldl_append

/-- The last step is taken in the store that the others left. -/
theorem after_concat (s : SettingsStore) (steps : List Step) (step : Step) :
    s.after (steps ++ [step]) = ((s.after steps).step step).2 :=
  after_append s steps [step]

/-- The last step alters the environment that the others left. -/
theorem environmentOf_concat (steps : List Step) (step : Step) :
    environmentOf (steps ++ [step]) = step.alter (environmentOf steps) :=
  List.foldl_append

/-- What the first step gives comes first. -/
theorem run_cons (s : SettingsStore) (step : Step) (rest : List Step) :
    s.run (step :: rest) = (s.step step).1.toList ++ (s.step step).2.run rest := rfl

/-- A run goes on from the store that the steps before it left. -/
theorem run_append (s : SettingsStore) (before later : List Step) :
    s.run (before ++ later) = s.run before ++ (s.after before).run later := by
  induction before generalizing s with
  | nil => rfl
  | cons step rest ih =>
    rw [List.cons_append, run_cons, run_cons, ih, List.append_assoc]
    rfl

/-- In a run every step gives its answer in its place. -/
theorem run_append_cons (before : List Step) (step : Step) (later : List Step) :
    run {} (before ++ step :: later) =
      run {} before ++ (answer before step).toList ++
        (({} : SettingsStore).after (before ++ [step])).run later := by
  rw [run_append, run_cons, after_concat, List.append_assoc]
  rfl

/-- Getting the settings leaves the environment. -/
theorem current_environment (s : SettingsStore) : s.current.2.environment = s.environment := by
  unfold current
  split
  · rfl
  · split <;> rfl

/-- A step makes of the environment of a store what it makes of any. -/
theorem step_environment (s : SettingsStore) (step : Step) :
    (s.step step).2.environment = step.alter s.environment := by
  cases step with
  | get => exact s.current_environment
  | _ => rfl

/-- The environment of a store is told by the variables that were set and removed. -/
theorem after_environment (steps : List Step) :
    (({} : SettingsStore).after steps).environment = environmentOf steps := by
  induction steps using List.reverseRecOn with
  | nil => rfl
  | append_singleton steps step ih =>
    rw [after_concat, step_environment, ih, environmentOf_concat]

/-! ## Askings -/

section Concat

variable {steps early : List Step} {step : Step}

/-- What comes before an asking comes before it still if another step follows. -/
theorem eq_append_get_of_concat (hget : step ≠ .get) {late : List Step}
    (h : steps ++ [step] = early ++ .get :: late) :
    ∃ late', late = late' ++ [step] ∧ steps = early ++ .get :: late' := by
  cases late using List.reverseRecOn with
  | nil =>
    obtain ⟨-, heq⟩ := List.append_inj' h rfl
    exact absurd (List.cons.inj heq).1 hget
  | append_singleton late' last =>
    rw [← List.cons_append, ← List.append_assoc] at h
    obtain ⟨hsteps, heq⟩ := List.append_inj' h rfl
    obtain rfl : step = last := (List.cons.inj heq).1
    exact ⟨late', rfl, hsteps⟩

/-- A step that does not ask leaves it at no success. -/
theorem NoneSucceeded.concat (hget : step ≠ .get) (h : NoneSucceeded steps) :
    NoneSucceeded (steps ++ [step]) := by
  intro early late hsplit hclear
  obtain ⟨late', rfl, hsteps⟩ := eq_append_get_of_concat hget hsplit
  exact h early late' hsteps fun hmem => hclear (List.mem_append_left _ hmem)

/-- When the settings are forgotten, no success counts any longer. -/
theorem noneSucceeded_clear (steps : List Step) : NoneSucceeded (steps ++ [.clear]) := by
  intro early late hsplit hclear
  obtain ⟨late', rfl, -⟩ := eq_append_get_of_concat (by simp) hsplit
  exact absurd (List.mem_append_right _ List.mem_cons_self) hclear

/-- An asking in vain leaves it at no success. -/
theorem NoneSucceeded.get (h : NoneSucceeded steps) {failure : Failure}
    (hfails : answer steps .get = some (.error failure)) : NoneSucceeded (steps ++ [.get]) := by
  intro early late hsplit hclear
  cases late using List.reverseRecOn with
  | nil =>
    obtain ⟨rfl, -⟩ := List.append_inj' hsplit rfl
    exact ⟨failure, hfails⟩
  | append_singleton late' last =>
    rw [← List.cons_append, ← List.append_assoc] at hsplit
    obtain ⟨hsteps, -⟩ := List.append_inj' hsplit rfl
    exact h early late' hsteps fun hmem => hclear (List.mem_append_left _ hmem)

/-- The first success stays the first as long as it is not forgotten. -/
theorem IsFirstSuccess.concat (hclear : step ≠ .clear) (h : IsFirstSuccess steps early) :
    IsFirstSuccess (steps ++ [step]) early where
  asked := by
    obtain ⟨late, rfl, hlate⟩ := h.asked
    refine ⟨late ++ [step], by rw [List.append_assoc, List.cons_append], fun hmem => ?_⟩
    rcases List.mem_append.mp hmem with hmem | hmem
    · exact hlate hmem
    · exact hclear (List.mem_singleton.mp hmem).symm
  succeeded := h.succeeded
  first := h.first

/-- A success after none is the first. -/
theorem IsFirstSuccess.of_noneSucceeded (h : NoneSucceeded steps) {settings : Settings}
    (hasked : answer steps .get = some (.ok settings)) : IsFirstSuccess (steps ++ [.get]) steps where
  asked := ⟨[], rfl, List.not_mem_nil⟩
  succeeded := ⟨settings, hasked⟩
  first := h

end Concat

/-- Where none succeeded, none was the first to. -/
theorem NoneSucceeded.not_isFirstSuccess {steps early : List Step} (h : NoneSucceeded steps) :
    ¬ IsFirstSuccess steps early := by
  rintro ⟨⟨late, hsteps, hclear⟩, ⟨settings, hok⟩, -⟩
  obtain ⟨failure, herror⟩ := h early late hsteps hclear
  rw [hok] at herror
  cases herror

/-- There is one first success. -/
theorem IsFirstSuccess.eq {steps early early' : List Step} (h : IsFirstSuccess steps early)
    (h' : IsFirstSuccess steps early') : early = early' := by
  obtain ⟨⟨late, hsteps, hclear⟩, ⟨settings, hok⟩, hfirst⟩ := h
  obtain ⟨⟨late', hsteps', hclear'⟩, ⟨settings', hok'⟩, hfirst'⟩ := h'
  -- Of two askings in one history, one comes before the other, and then the other is not the first.
  have hbefore : ∀ {one other : List Step} {behind between : List Step} {settings : Settings},
      .clear ∉ behind → answer one .get = some (.ok settings) → NoneSucceeded other →
      other = one ++ .get :: between → (∃ rest, behind = between ++ rest) → False := by
    rintro one other behind between settings hclear hok hfirst hother ⟨rest, hbehind⟩
    obtain ⟨failure, herror⟩ := hfirst one between hother fun hmem =>
      hclear (hbehind ▸ List.mem_append_left rest hmem)
    rw [hok] at herror
    cases herror
  rw [hsteps] at hsteps'
  rcases List.append_eq_append_iff.mp hsteps' with ⟨between, hother, hlate⟩ | ⟨between, hother, hlate⟩
  · cases between with
    | nil => rw [hother, List.append_nil]
    | cons step between =>
      obtain ⟨rfl, hbehind⟩ := List.cons.inj hlate
      exact (hbefore hclear hok hfirst' hother ⟨_, hbehind⟩).elim
  · cases between with
    | nil => rw [hother, List.append_nil]
    | cons step between =>
      obtain ⟨rfl, hbehind⟩ := List.cons.inj hlate
      exact (hbefore hclear' hok' hfirst hother ⟨_, hbehind⟩).elim

/-! ## What is kept -/

/-- What is kept after steps: nothing as long as no asking succeeded, and else the settings of the
environment at the first asking that did. -/
def Keeps (steps : List Step) : Option Settings → Prop
  | none => NoneSucceeded steps
  | some settings => ∃ early, IsFirstSuccess steps early ∧
    Settings.read [] (environmentOf early) = .ok settings

/-- A process that keeps nothing reads the environment when it is asked. -/
theorem answer_get_of_kept_eq_none {steps : List Step}
    (h : (({} : SettingsStore).after steps).kept = none) :
    answer steps .get = some (Settings.read [] (environmentOf steps)) := by
  rw [answer, step, current, h]
  rw [after_environment]
  cases Settings.read [] (environmentOf steps) <;> rfl

/-- A process gives the settings that it keeps when it is asked. -/
theorem answer_get_of_kept_eq_some {steps : List Step} {settings : Settings}
    (h : (({} : SettingsStore).after steps).kept = some settings) :
    answer steps .get = some (.ok settings) := by
  rw [answer, step, current, h]

/-- An asking that fails leaves no trace. -/
theorem after_get_of_error {steps : List Step} {failure : Failure}
    (h : answer steps .get = some (.error failure)) :
    ({} : SettingsStore).after (steps ++ [.get]) = ({} : SettingsStore).after steps := by
  rw [after_concat]
  cases hkept : (({} : SettingsStore).after steps).kept with
  | some settings =>
    rw [answer_get_of_kept_eq_some hkept] at h
    cases h
  | none =>
    rw [answer_get_of_kept_eq_none hkept, Option.some.injEq, ← after_environment] at h
    rw [step, current, hkept]
    simp only [h]

/-- What a process keeps is told by the steps before. -/
theorem keeps (steps : List Step) : Keeps steps (({} : SettingsStore).after steps).kept := by
  induction steps using List.reverseRecOn with
  | nil => 
    intro early late h
    simp at h
  | append_singleton steps step ih =>
    have hother : step ≠ .get → step ≠ .clear →
        (({} : SettingsStore).after (steps ++ [step])).kept = (({} : SettingsStore).after steps).kept →
        Keeps (steps ++ [step]) (({} : SettingsStore).after (steps ++ [step])).kept := by
      intro hget hclear hkept
      rw [hkept]
      cases hold : (({} : SettingsStore).after steps).kept with
      | none =>
        rw [hold] at ih
        exact NoneSucceeded.concat hget ih
      | some settings =>
        rw [hold] at ih
        obtain ⟨early, hfirst, hread⟩ := ih
        exact ⟨early, hfirst.concat hclear, hread⟩
    cases step with
    | set name value => exact hother (by simp) (by simp) (by rw [after_concat]; rfl)
    | unset name => exact hother (by simp) (by simp) (by rw [after_concat]; rfl)
    | make keywords => exact hother (by simp) (by simp) (by rw [after_concat]; rfl)
    | clear =>
      rw [after_concat]
      exact noneSucceeded_clear steps
    | get =>
      cases hold : (({} : SettingsStore).after steps).kept with
      | some settings =>
        rw [hold] at ih
        obtain ⟨early, hfirst, hread⟩ := ih
        have hkept : (({} : SettingsStore).after (steps ++ [.get])).kept = some settings := by
          rw [after_concat, step, current, hold]
          exact hold
        rw [hkept]
        exact ⟨early, hfirst.concat (by simp), hread⟩
      | none =>
        rw [hold] at ih
        have hanswer := answer_get_of_kept_eq_none hold
        cases hread : Settings.read [] (environmentOf steps) with
        | error failure =>
          rw [hread] at hanswer
          rw [after_get_of_error hanswer, hold]
          exact NoneSucceeded.get ih hanswer
        | ok settings =>
          rw [hread] at hanswer
          have hkept : (({} : SettingsStore).after (steps ++ [.get])).kept = some settings := by
            rw [after_concat, step, current, hold]
            rw [after_environment]
            simp only [hread]
          rw [hkept]
          exact ⟨steps, .of_noneSucceeded ih hanswer, hread⟩

/-- Either no asking among steps succeeded, or one is the first that did. -/
theorem noneSucceeded_or_isFirstSuccess (steps : List Step) :
    NoneSucceeded steps ∨ ∃ early, IsFirstSuccess steps early := by
  have hkeeps := keeps steps
  cases hkept : (({} : SettingsStore).after steps).kept with
  | none =>
    rw [hkept] at hkeeps
    exact .inl hkeeps
  | some settings =>
    rw [hkept] at hkeeps
    obtain ⟨early, hfirst, -⟩ := hkeeps
    exact .inr ⟨early, hfirst⟩

/-- As long as no asking succeeded, the next one reads the environment as it is. -/
theorem NoneSucceeded.answer_get {steps : List Step} (h : NoneSucceeded steps) :
    answer steps .get = some (Settings.read [] (environmentOf steps)) := by
  have hkeeps := keeps steps
  cases hkept : (({} : SettingsStore).after steps).kept with
  | none => exact answer_get_of_kept_eq_none hkept
  | some settings =>
    rw [hkept] at hkeeps
    obtain ⟨early, hfirst, -⟩ := hkeeps
    exact absurd hfirst h.not_isFirstSuccess

/-- After the first asking that succeeded, the next one gives what that one gave. -/
theorem IsFirstSuccess.answer_get {steps early : List Step} (h : IsFirstSuccess steps early) :
    ∃ settings, Settings.read [] (environmentOf early) = .ok settings ∧
      answer steps .get = some (.ok settings) := by
  have hkeeps := keeps steps
  cases hkept : (({} : SettingsStore).after steps).kept with
  | none =>
    rw [hkept] at hkeeps
    exact absurd h hkeeps.not_isFirstSuccess
  | some settings =>
    rw [hkept] at hkeeps
    obtain ⟨other, hfirst, hread⟩ := hkeeps
    rw [h.eq hfirst]
    exact ⟨settings, hread, answer_get_of_kept_eq_some hkept⟩

/-- Whatever was set, removed, forgotten, asked and made before: an asking gives the settings of the
environment at the first asking that succeeded since the settings were forgotten, or reads the
environment as it is if none did. One that fails leaves no trace. Making settings with keywords reads
the environment as it is, and leaves no trace either. -/
theorem run_keeps (before later : List Step) :
    (∃ outcome,
      run {} (before ++ .get :: later) =
        run {} before ++ outcome :: (({} : SettingsStore).after (before ++ [.get])).run later ∧
      (NoneSucceeded before ∨ ∃ early, IsFirstSuccess before early) ∧
      (NoneSucceeded before → outcome = Settings.read [] (environmentOf before)) ∧
      (∀ early, IsFirstSuccess before early → ∃ settings,
        Settings.read [] (environmentOf early) = .ok settings ∧ outcome = .ok settings) ∧
      ∀ failure, outcome = .error failure → run {} (before ++ .get :: later) =
        run {} before ++ .error failure :: (({} : SettingsStore).after before).run later) ∧
    ∀ keywords, run {} (before ++ .make keywords :: later) =
      run {} before ++ Settings.read keywords (environmentOf before) ::
        (({} : SettingsStore).after before).run later := by
  constructor
  · have hrun := run_append_cons before .get later
    obtain ⟨outcome, houtcome⟩ : ∃ outcome, answer before .get = some outcome := ⟨_, rfl⟩
    rw [houtcome, Option.toList_some, List.append_assoc, List.singleton_append] at hrun
    refine ⟨outcome, hrun, noneSucceeded_or_isFirstSuccess before, ?_, ?_, ?_⟩
    · intro hnone
      exact Option.some.inj (houtcome.symm.trans hnone.answer_get)
    · intro early hfirst
      obtain ⟨settings, hread, hanswer⟩ := hfirst.answer_get
      exact ⟨settings, hread, Option.some.inj (houtcome.symm.trans hanswer)⟩
    · rintro failure rfl
      rw [hrun, after_get_of_error houtcome]
  · intro keywords
    have hanswer : answer before (.make keywords) =
        some (Settings.read keywords (environmentOf before)) := by
      rw [← after_environment]
      rfl
    rw [run_append_cons, hanswer, after_concat, Option.toList_some, List.append_assoc,
      List.singleton_append]
    rfl

/-- A validity that is refused, an asking in vain, and a validity that is accepted. -/
def secondTry : List Step := [.set "VAULT_GCP_JWT_VALIDITY_SECONDS" "0", .get,
  .set "VAULT_GCP_JWT_VALIDITY_SECONDS" "5"]

/-- The asking in vain is not kept, and the settings of the second try are, though the validity is
changed again. -/
theorem run_keeps_secondTry :
    IsFirstSuccess (secondTry ++ [.get, .set "VAULT_GCP_JWT_VALIDITY_SECONDS" "7"]) secondTry ∧
      ∃ settings, Settings.read [] (environmentOf secondTry) = .ok settings ∧
        settings.validitySeconds = 5 ∧
        run {} (secondTry ++ [.get, .set "VAULT_GCP_JWT_VALIDITY_SECONDS" "7"] ++ [.get]) =
          run {} (secondTry ++ [.get, .set "VAULT_GCP_JWT_VALIDITY_SECONDS" "7"]) ++
            [.ok settings] := by
  have hempty : NoneSucceeded [] := by
    intro early late h
    simp at h
  have hset : NoneSucceeded [.set "VAULT_GCP_JWT_VALIDITY_SECONDS" "0"] :=
    hempty.concat (by simp)
  have hrefused : (Settings.read []
      (environmentOf [.set "VAULT_GCP_JWT_VALIDITY_SECONDS" "0"])).toOption.isNone = true := by
    decide +kernel
  obtain ⟨failure, hfailure⟩ := toOption_eq_none.mp (Option.isNone_iff_eq_none.mp hrefused)
  have hfails : answer [.set "VAULT_GCP_JWT_VALIDITY_SECONDS" "0"] .get = some (.error failure) := by
    rw [hset.answer_get, hfailure]
  have hnone : NoneSucceeded secondTry := (hset.get hfails).concat (by simp)
  have hread : (Settings.read [] (environmentOf secondTry)).toOption.map Settings.validitySeconds =
      some 5 := by decide +kernel
  obtain ⟨settings, hsettings, hseconds⟩ := toOption_map_eq_some.mp hread
  have hanswer : answer secondTry .get = some (.ok settings) := by rw [hnone.answer_get, hsettings]
  have hfirst : IsFirstSuccess (secondTry ++ [.get] ++ [.set "VAULT_GCP_JWT_VALIDITY_SECONDS" "7"])
      secondTry := (IsFirstSuccess.of_noneSucceeded hnone hanswer).concat (by simp)
  rw [List.append_assoc] at hfirst
  obtain ⟨⟨outcome, hrun, -, -, hkept, -⟩, -⟩ :=
    run_keeps (secondTry ++ [.get, .set "VAULT_GCP_JWT_VALIDITY_SECONDS" "7"]) []
  obtain ⟨other, hother, rfl⟩ := hkept secondTry hfirst
  obtain rfl : settings = other := Except.ok.inj (hsettings.symm.trans hother)
  exact ⟨hfirst, settings, hsettings, hseconds, hrun⟩

end IamLogin.SettingsStore
