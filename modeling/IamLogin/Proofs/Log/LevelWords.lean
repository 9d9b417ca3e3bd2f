import IamLogin.Proofs.Log.FirstUse

/-!
# The words that a log desk is configured with

A level is given as a word, and any word should do: in capitals it is the name of a standard level, or
else it stands for the level of information. But words are looked up in a table that has two more names,
which are those of layouts, and a desk that is given one of them is left halfway. The words are refused
after the desk has a threshold and before it has a service. So the threshold is not that of information,
and it stays whatever the desk is configured with later; and nothing is written until then.
-/

namespace IamLogin.Log

/-- The numbers of the standard levels, by their names. -/
def standardLevels : Entries String Nat := [
  ("CRITICAL", 50), ("FATAL", 50), ("ERROR", 40), ("WARNING", 30), ("WARN", 30), ("INFO", 20),
  ("DEBUG", 10), ("NOTSET", 0)]

/-- The number of the level that a word stands for: that of its name in capitals, or else of
information. -/
def levelOf (word : String) : Nat :=
  (Entries.get? (capitals word) standardLevels).getD infoThreshold

/-- Whether a word is, in capitals, the name of layouts. -/
def NamesLayout (word : String) : Prop :=
  capitals word = "BASIC_FORMAT" ∨ capitals word = "_STYLES"

/-- A word that names no layout is taken for the level that it stands for. -/
theorem threshold_of_not_namesLayout {word : String} (h : ¬ NamesLayout word) :
    threshold word = .ok (levelOf word) := by
  have hnone : (∀ name ∈ Entries.keys standardLevels, capitals word ≠ name) →
      Entries.get? (capitals word) standardLevels = none := by
    intro hnames
    rw [← Option.not_isSome_iff_eq_none, Entries.isSome_get?_iff]
    exact fun hmem => hnames _ hmem rfl
  unfold threshold levelOf
  split
  case h_9 hname => exact absurd (.inl hname) h
  case h_10 hname => exact absurd (.inr hname) h
  case h_11 =>
    rw [hnone (by simp_all [standardLevels, Entries.keys])]
    rfl
  all_goals
    rename_i hname
    rw [hname]
    rfl

/-- A word that names a layout is refused, as a value or for its type. -/
theorem threshold_of_namesLayout {word : String} (h : NamesLayout word) :
    ∃ failure, threshold word = .error failure ∧ (failure.kind = .value ∨ failure.kind = .typing) := by
  unfold threshold
  rcases h with h | h
  · rw [h]
    exact ⟨_, rfl, .inl rfl⟩
  · rw [h]
    exact ⟨_, rfl, .inr rfl⟩

namespace Desk

variable {d : Desk}

/-- The first configuration sets the threshold and the service, or the threshold alone if the word is
refused. -/
theorem configure_of_threshold_eq_none (h : d.threshold = none) (service level : String) :
    d.configure service level =
      match Log.threshold level with
      | .ok least => (.ok (), { d with threshold := some least, service := some service })
      | .error failure => (.error failure, { d with threshold := some defaultThreshold }) := by
  cases hlevel : Log.threshold level <;> simp only [configure, h, hlevel]

/-- No step changes a threshold. -/
theorem threshold_step {least : Nat} (h : d.threshold = some least) (s : Step) :
    (d.step s).threshold = some least := by
  cases s with
  | configure service level =>
    rw [Desk.step, configure, h]
  | acquire key logger => exact h
  | bind fields => exact h
  | emit key entry time => rw [(d.step_keeps id).1, h]

/-- Nor do all steps. -/
theorem threshold_after_of_eq_some {least : Nat} (h : d.threshold = some least)
    (steps : List Step) : (d.after steps).threshold = some least := by
  induction steps generalizing d with
  | nil => exact h
  | cons s steps ih => exact ih (threshold_step h s)

/-- A desk without a service, and with no handle that has one, writes nothing. -/
theorem Settled.emit_ne {least : Option Nat} (h : Settled least none d) (key : String)
    (entry : Entry) (time line : String) : (d.emit key entry time).1 ≠ .ok (some line) := by
  cases hkey : Entries.get? key d.handles with
  | none =>
    rw [emit_of_none hkey]
    exact nofun
  | some handle =>
    have hservice := h.handles key handle hkey
    rw [emit_of_some hkey]
    cases takenField? entry.level entry.fields with
    | some failure => exact nofun
    | none =>
      have hline : ∀ kept : Desk, kept.lineFor { handle with service := none } entry time = none := by
        intro kept
        unfold lineFor
        cases kept.threshold <;> rfl
      simp only [h.service, hservice, hline]
      exact nofun

/-- A desk whose first configuration is refused has a threshold and no service. -/
theorem settled_of_refused {steps : List Step} (h : ∀ s ∈ steps, ¬ s.IsConfigure)
    {service level : String} {failure : Failure} (hlevel : Log.threshold level = .error failure) :
    Settled (some defaultThreshold) none (after {} (steps ++ [.configure service level])) := by
  have hbefore := settled_of_not_isConfigure h
  have hconfigure : (after {} steps).step (.configure service level) =
      { after {} steps with threshold := some defaultThreshold } := by
    rw [Desk.step, configure_of_threshold_eq_none hbefore.threshold, hlevel]
  rw [after_concat, hconfigure]
  exact ⟨rfl, hbefore.service, hbefore.handles⟩

/-- Whatever was done to a desk that is not configured yet: it is configured with a word and has the
threshold of the level that the word stands for, exactly if the word does not name a layout. If it does,
the configuration is refused, and the desk has the default threshold instead, whatever is done to it
later, and writes nothing as long as it is not configured again. -/
theorem configure_settles_iff {before : List Step} (hbefore : ∀ s ∈ before, ¬ s.IsConfigure)
    (service level : String) :
    ((after {} before).configure service level =
        (.ok (), { after {} before with
          threshold := some (levelOf level), service := some service }) ↔
      ¬ NamesLayout level) ∧
    (NamesLayout level → ∃ failure,
      (after {} before).configure service level =
        (.error failure, { after {} before with threshold := some defaultThreshold }) ∧
      (failure.kind = .value ∨ failure.kind = .typing) ∧
      (∀ later, (after {} (before ++ .configure service level :: later)).threshold =
        some defaultThreshold) ∧
      ∀ later, (∀ s ∈ later, ¬ s.IsConfigure) → ∀ key entry time line,
        ((after {} (before ++ .configure service level :: later)).emit key entry time).1 ≠
          .ok (some line)) := by
  have hfresh := (settled_of_not_isConfigure hbefore).threshold
  have hsplit : ∀ later, after {} (before ++ .configure service level :: later) =
      (after {} (before ++ [.configure service level])).after later := by
    intro later
    rw [← after_append, List.append_assoc, List.singleton_append]
  by_cases hlayout : NamesLayout level
  · obtain ⟨failure, hlevel, hkind⟩ := threshold_of_namesLayout hlayout
    have hrefused : Settled (some defaultThreshold) none
        (after {} (before ++ [.configure service level])) := settled_of_refused hbefore hlevel
    rw [configure_of_threshold_eq_none hfresh, hlevel]
    refine ⟨⟨fun hok => ?_, fun hnot => absurd hlayout hnot⟩, fun _ => ⟨failure, rfl, hkind, ?_, ?_⟩⟩
    · cases congrArg Prod.fst hok
    · intro later
      rw [hsplit]
      exact threshold_after_of_eq_some hrefused.threshold later
    · intro later hlater key entry time line
      rw [hsplit]
      exact (hrefused.after hlater).emit_ne key entry time line
  · rw [configure_of_threshold_eq_none hfresh, threshold_of_not_namesLayout hlayout]
    exact ⟨⟨fun _ => hlayout, fun _ => rfl⟩, fun hnames => absurd hnames hlayout⟩

/-- A word with a dotless letter stands for the level of warnings, and one that names no level for that
of information. -/
theorem configure_settles_iff_dotless :
    (∀ s ∈ [Step.acquire "log" "app"], ¬ s.IsConfigure) ∧
      ((after {} [.acquire "log" "app"]).configure "svc" "Warn\u0131ng").2.threshold = some 30 ∧
      ((after {} [.acquire "log" "app"]).configure "svc" "loud").2.threshold = some 20 := by
  have hacquired : ∀ s ∈ [Step.acquire "log" "app"], ¬ s.IsConfigure := by
    simp [Step.IsConfigure]
  have hdotless : ¬ NamesLayout "Warn\u0131ng" := by
    unfold NamesLayout
    decide +kernel
  have hloud : ¬ NamesLayout "loud" := by
    unfold NamesLayout
    decide +kernel
  refine ⟨hacquired, ?_, ?_⟩
  · rw [(configure_settles_iff hacquired "svc" "Warn\u0131ng").1.mpr hdotless]
    decide +kernel
  · rw [(configure_settles_iff hacquired "svc" "loud").1.mpr hloud]
    decide +kernel

/-- A new desk refuses the name of a layout in small letters, and is left with a threshold that is not
that of information and without a service. -/
theorem configure_layout :
    ({} : Desk).configure "svc" "basic_format" =
        (.error (.unknownLevel basicLayout), { threshold := some 30 }) ∧
      ({} : Desk).configure "svc" "basic_format" ≠
        (.ok (), { threshold := some infoThreshold, service := some "svc" }) := by
  have hlevel : Log.threshold "basic_format" = .error (.unknownLevel basicLayout) := rfl
  rw [configure_of_threshold_eq_none rfl, hlevel]
  exact ⟨rfl, fun h => by cases congrArg Prod.fst h⟩

end Desk

end IamLogin.Log
