import IamLogin.Proofs.Log.Lines
import Mathlib.Data.List.Induction

/-!
# What later configurations change

A log desk can be configured more than once, and two things about it are held fast on the way. The
threshold is that of the first configuration and stays. The service that a line is about is held by each
handle for itself: a handle has none until something is written through it at a desk that is configured,
be it let through or not, and from then on it has the service of the configuration that came last before
that. So a later configuration changes nothing but the service, and that only for handles that are not
used yet.

All of this is told by the history of steps alone. A handle is the one that was opened last under its
name, so what was written before that does not count as a use of it.
-/

namespace IamLogin.Log

/-! ## Places in a history -/

section Places

variable {α : Type} {early late early' late' steps : List α} {x x' last : α}

/-- A place in a history is the last one, or was there before the last step. -/
theorem concat_eq_append_cons (h : steps ++ [last] = early ++ x :: late) :
    (late = [] ∧ early = steps ∧ x = last) ∨
      ∃ between, late = between ++ [last] ∧ steps = early ++ x :: between := by
  cases late using List.reverseRecOn with
  | nil =>
    obtain ⟨hsteps, hlast⟩ := List.append_inj' h rfl
    exact .inl ⟨rfl, hsteps.symm, (List.cons.inj hlast).1.symm⟩
  | append_singleton between final =>
    rw [← List.cons_append, ← List.append_assoc] at h
    obtain ⟨hsteps, hlast⟩ := List.append_inj' h rfl
    exact .inr ⟨between, by rw [(List.cons.inj hlast).1], hsteps⟩

/-- Of two places in a history, one comes before the other, unless they are the same. -/
theorem append_cons_eq_append_cons (h : early ++ x :: late = early' ++ x' :: late') :
    early = early' ∨
      (∃ between, early' = early ++ x :: between ∧ late = between ++ x' :: late') ∨
      ∃ between, early = early' ++ x' :: between ∧ late' = between ++ x :: late := by
  rcases List.append_eq_append_iff.mp h with ⟨between, hearly, hlate⟩ | ⟨between, hearly, hlate⟩
  · cases between with
    | nil => exact .inl (by rw [hearly, List.append_nil])
    | cons y between =>
      obtain ⟨rfl, rfl⟩ := List.cons.inj hlate
      exact .inr (.inl ⟨between, hearly, rfl⟩)
  · cases between with
    | nil => exact .inl (by rw [hearly, List.append_nil])
    | cons y between =>
      obtain ⟨rfl, rfl⟩ := List.cons.inj hlate
      exact .inr (.inr ⟨between, hearly, rfl⟩)

end Places

/-! ## Histories -/

/-- The service and the level with which a step configures the desk. -/
def Step.configured? : Step → Option (String × String)
  | configure service level => some (service, level)
  | _ => none

/-- The level of the first configuration. -/
def firstLevel? (steps : List Step) : Option String :=
  ((steps.filterMap Step.configured?).head?).map Prod.snd

/-- The service of the last configuration. -/
def lastService? (steps : List Step) : Option String :=
  ((steps.filterMap Step.configured?).getLast?).map Prod.fst

/-- Whether every configuration among the first steps of a process succeeds. -/
def EachSucceeds (steps : List Step) : Prop :=
  ∀ early service level late, steps = early ++ .configure service level :: late →
    ((Desk.after {} early).configure service level).1 = .ok ()

/-- Whether the handle under a name is not opened again. -/
def KeepsHandle (key : String) (steps : List Step) : Prop :=
  ∀ logger, .acquire key logger ∉ steps

/-- Whether nothing was written through the present handle under a name once the desk was
configured. -/
def Unused (key : String) (steps : List Step) : Prop :=
  ∀ early entry time late, steps = early ++ .emit key entry time :: late → KeepsHandle key late →
    ∀ s ∈ early, ¬ s.IsConfigure

/-- Whether the step after the steps `early` is the first by which something was written through the
present handle under a name once the desk was configured. -/
structure IsFirstUse (key : String) (steps early : List Step) : Prop where
  /-- Something was written, and the handle was not opened again. -/
  used : ∃ entry time late, steps = early ++ .emit key entry time :: late ∧ KeepsHandle key late
  /-- The desk was configured. -/
  configured : ∃ s ∈ early, s.IsConfigure
  /-- Nothing was written before. -/
  first : Unused key early

section Histories

variable {key : String} {steps early : List Step} {s : Step}

/-- The last step configures the service, or the steps before it did. -/
theorem lastService?_concat (steps : List Step) (s : Step) :
    lastService? (steps ++ [s]) = (s.configured?.map Prod.fst).or (lastService? steps) := by
  unfold lastService?
  rw [List.filterMap_append, List.getLast?_append, ← Option.map_or]
  cases hs : s.configured? <;> simp [hs]

/-- The steps before the last set the level, or it does. -/
theorem firstLevel?_concat (steps : List Step) (s : Step) :
    firstLevel? (steps ++ [s]) = (firstLevel? steps).or (s.configured?.map Prod.snd) := by
  unfold firstLevel?
  rw [List.filterMap_append, List.head?_append, ← Option.map_or]
  cases hs : s.configured? <;> simp [hs]

/-- Where there is no last service, nothing was configured. -/
theorem lastService?_eq_none : lastService? steps = none ↔ ∀ s ∈ steps, ¬ s.IsConfigure := by
  unfold lastService?
  rw [Option.map_eq_none_iff, List.getLast?_eq_none_iff, List.filterMap_eq_nil_iff]
  refine forall₂_congr fun s _ => ?_
  cases s <;> simp [Step.configured?, Step.IsConfigure]

/-- Where there is a first level, there is a last service. -/
theorem exists_lastService? {level : String} (h : firstLevel? steps = some level) :
    ∃ service, lastService? steps = some service := by
  unfold firstLevel? at h
  unfold lastService?
  cases hconfigured : steps.filterMap Step.configured? with
  | nil => simp [hconfigured] at h
  | cons first rest => exact ⟨_, by rw [List.getLast?_cons, Option.map_some]⟩

/-- The configurations before the last step succeed if all do. -/
theorem EachSucceeds.of_concat (h : EachSucceeds (steps ++ [s])) : EachSucceeds steps := by
  rintro early service level late rfl
  exact h early service level (late ++ [s]) (by rw [List.append_assoc, List.cons_append])

/-- A step that does not take the handle keeps it. -/
theorem KeepsHandle.concat {late : List Step} (h : KeepsHandle key late)
    (hs : ∀ logger, s ≠ .acquire key logger) : KeepsHandle key (late ++ [s]) := by
  intro logger hmem
  rcases List.mem_append.mp hmem with hmem | hmem
  · exact h logger hmem
  · exact hs logger (List.mem_singleton.mp hmem).symm

/-- A handle that is kept to the end is kept before. -/
theorem KeepsHandle.of_concat {late : List Step} (h : KeepsHandle key (late ++ [s])) :
    KeepsHandle key late :=
  fun logger hmem => h logger (List.mem_append_left _ hmem)

/-- A handle stays unused by a step that does not write through it. -/
theorem Unused.concat (h : Unused key steps) (hs : ∀ entry time, s ≠ .emit key entry time) :
    Unused key (steps ++ [s]) := by
  intro early entry time late hsplit hkeeps
  rcases concat_eq_append_cons hsplit with ⟨-, -, hlast⟩ | ⟨between, rfl, hsteps⟩
  · exact absurd hlast.symm (hs entry time)
  · exact h early entry time between hsteps hkeeps.of_concat

/-- A handle stays unused as long as nothing is configured. -/
theorem unused_of_not_isConfigure (h : ∀ s ∈ steps, ¬ s.IsConfigure) : Unused key steps := by
  rintro early entry time late rfl - s hs
  exact h s (List.mem_append_left _ hs)

/-- A handle that is just opened is unused. -/
theorem unused_acquire (key logger : String) (steps : List Step) :
    Unused key (steps ++ [.acquire key logger]) := by
  intro early entry time late hsplit hkeeps
  rcases concat_eq_append_cons hsplit with ⟨-, -, hlast⟩ | ⟨between, rfl, -⟩
  · cases hlast
  · exact absurd (List.mem_append_right _ List.mem_cons_self) (hkeeps logger)

/-- The first use stays the first as long as the handle is not opened again. -/
theorem IsFirstUse.concat (h : IsFirstUse key steps early)
    (hs : ∀ logger, s ≠ .acquire key logger) : IsFirstUse key (steps ++ [s]) early where
  used := by
    obtain ⟨entry, time, late, rfl, hkeeps⟩ := h.used
    exact ⟨entry, time, late ++ [s], by rw [List.append_assoc, List.cons_append],
      hkeeps.concat hs⟩
  configured := h.configured
  first := h.first

/-- Writing through an unused handle is its first use once the desk is configured. -/
theorem Unused.isFirstUse (h : Unused key steps) (hconfigured : ∃ s ∈ steps, s.IsConfigure)
    (entry : Entry) (time : String) : IsFirstUse key (steps ++ [.emit key entry time]) steps where
  used := ⟨entry, time, [], rfl, fun _ => List.not_mem_nil⟩
  configured := hconfigured
  first := h

/-- There is one first use. -/
theorem IsFirstUse.unique {early' : List Step} (h : IsFirstUse key steps early)
    (h' : IsFirstUse key steps early') : early = early' := by
  -- A use before the first one would be of an unused handle at a desk that is configured.
  have hbefore : ∀ {one other between : List Step} {entry : Entry} {time : String},
      IsFirstUse key steps one → IsFirstUse key steps other →
      other = one ++ .emit key entry time :: between → KeepsHandle key between → False := by
    intro one other between entry time hone hother hsplit hkeeps
    obtain ⟨s, hs, hconfigure⟩ := hone.configured
    exact hother.first one entry time between hsplit hkeeps s hs hconfigure
  obtain ⟨entry, time, late, hsteps, hkeeps⟩ := h.used
  obtain ⟨entry', time', late', hsteps', hkeeps'⟩ := h'.used
  rcases append_cons_eq_append_cons (hsteps.symm.trans hsteps') with
    heq | ⟨between, hsplit, rfl⟩ | ⟨between, hsplit, rfl⟩
  · exact heq
  · exact (hbefore h h' hsplit fun logger hmem =>
      hkeeps logger (List.mem_append_left _ hmem)).elim
  · exact (hbefore h' h hsplit fun logger hmem =>
      hkeeps' logger (List.mem_append_left _ hmem)).elim

end Histories

namespace Desk

variable {d : Desk} {key : String}

/-! ## What a step makes of threshold and services -/

/-- A configuration that succeeds sets the threshold if there is none, and the service in any case. -/
theorem configure_of_ok {service level : String} (h : (d.configure service level).1 = .ok ()) :
    ((d.configure service level).2.threshold.map Except.ok =
        (d.threshold.map Except.ok).or (some (Log.threshold level))) ∧
      (d.configure service level).2.service = some service := by
  unfold configure at h ⊢
  cases hthreshold : d.threshold with
  | some least => simp
  | none =>
    cases hlevel : Log.threshold level with
    | ok least => simp
    | error failure => simp [hthreshold, hlevel] at h

/-- A step that configures nothing leaves the threshold and the service of a desk alone. -/
theorem step_keeps (d : Desk) {s : Step} (hs : ¬ s.IsConfigure) :
    (d.step s).threshold = d.threshold ∧ (d.step s).service = d.service := by
  cases s with
  | configure => exact absurd trivial hs
  | acquire k logger => exact ⟨rfl, rfl⟩
  | bind fields => exact ⟨rfl, rfl⟩
  | emit k entry time =>
    cases hk : Entries.get? k d.handles with
    | none =>
      rw [Desk.step, emit_of_none hk]
      exact ⟨rfl, rfl⟩
    | some handle =>
      rw [Desk.step, emit_of_some hk]
      exact ⟨rfl, rfl⟩

/-- A handle is opened without a service, and when something is written through it, it takes over that
of the desk, unless it has one. -/
theorem service_step (d : Desk) (s : Step) (key : String) :
    (Entries.get? key (d.step s).handles).map Handle.service =
      match s with
      | .acquire k _ =>
        if k = key then some none else (Entries.get? key d.handles).map Handle.service
      | .emit k _ _ =>
        (Entries.get? key d.handles).map fun handle =>
          if k = key then handle.service.or d.service else handle.service
      | _ => (Entries.get? key d.handles).map Handle.service := by
  cases s with
  | configure service level => rw [Desk.step, (d.configure_keeps service level).1]
  | acquire k logger =>
    rw [Desk.step, openHandle, Entries.get?_put]
    dsimp only
    split <;> rfl
  | bind fields => rfl
  | emit k entry time =>
    dsimp only
    cases hk : Entries.get? k d.handles with
    | none =>
      rw [Desk.step, emit_of_none hk]
      by_cases hkey : k = key
      · rw [← hkey, hk]
        rfl
      · simp only [if_neg hkey]
    | some handle =>
      rw [Desk.step, emit_of_some hk, Entries.get?_put]
      by_cases hkey : k = key
      · rw [if_pos hkey, ← hkey, hk]
        simp
      · simp only [if_neg hkey]

/-! ## What all steps make of them -/

/-- The threshold is that of the first configuration, and the service that of the last. -/
theorem configured_after {steps : List Step} (h : EachSucceeds steps) :
    (after {} steps).threshold.map Except.ok = (firstLevel? steps).map Log.threshold ∧
      (after {} steps).service = lastService? steps := by
  induction steps using List.reverseRecOn with
  | nil => exact ⟨rfl, rfl⟩
  | append_singleton steps s ih =>
    obtain ⟨hthreshold, hservice⟩ := ih h.of_concat
    rw [after_concat, firstLevel?_concat, lastService?_concat, ← hservice, Option.map_or,
      ← hthreshold]
    by_cases hs : s.IsConfigure
    · cases s with
      | configure service level => exact configure_of_ok (h steps service level [] rfl)
      | _ => exact hs.elim
    · obtain ⟨hkeeps, hkeeps'⟩ := step_keeps (after {} steps) hs
      have hnone : s.configured? = none := by
        cases s with
        | configure => exact absurd trivial hs
        | _ => rfl
      rw [hkeeps, hkeeps', hnone]
      simp

/-- The service that the handle under a name has taken over after steps: none as long as it is unused,
and then that of the last configuration before its first use. -/
def TakesOver (key : String) (steps : List Step) : Option String → Prop
  | none => Unused key steps
  | some service => ∃ early, IsFirstUse key steps early ∧ lastService? early = some service

/-- What a handle has taken over is not changed by a step that neither writes through it nor opens it
again. -/
theorem TakesOver.concat {steps : List Step} {subject : Option String}
    (h : TakesOver key steps subject) {s : Step} (hemit : ∀ entry time, s ≠ .emit key entry time)
    (hacquire : ∀ logger, s ≠ .acquire key logger) : TakesOver key (steps ++ [s]) subject := by
  cases subject with
  | none => exact Unused.concat h hemit
  | some service =>
    obtain ⟨early, hfirst, hservice⟩ := h
    exact ⟨early, hfirst.concat hacquire, hservice⟩

/-- When something is written through a handle, it has taken over the service of the last configuration
if it had taken over none before. -/
theorem TakesOver.emit {steps : List Step} {subject : Option String}
    (h : TakesOver key steps subject) (entry : Entry) (time : String) :
    TakesOver key (steps ++ [.emit key entry time]) (subject.or (lastService? steps)) := by
  cases subject with
  | some service =>
    obtain ⟨early, hfirst, hservice⟩ := h
    exact ⟨early, hfirst.concat (by simp), hservice⟩
  | none =>
    rw [Option.none_or]
    cases hlast : lastService? steps with
    | none =>
      refine unused_of_not_isConfigure fun s hs => ?_
      rcases List.mem_append.mp hs with hs | hs
      · exact lastService?_eq_none.mp hlast s hs
      · rw [List.mem_singleton.mp hs]
        exact id
    | some service =>
      refine ⟨steps, Unused.isFirstUse h ?_ entry time, hlast⟩
      by_contra hnot
      rw [lastService?_eq_none.mpr fun s hs hconfigure => hnot ⟨s, hs, hconfigure⟩] at hlast
      cases hlast

/-- What every handle has taken over is told by the steps before. -/
theorem takesOver_after {steps : List Step} (h : EachSucceeds steps) {subject : Option String}
    (hkey : (Entries.get? key (after {} steps).handles).map Handle.service = some subject) :
    TakesOver key steps subject := by
  induction steps using List.reverseRecOn generalizing subject with
  | nil => cases hkey
  | append_singleton steps s ih =>
    rw [after_concat, service_step] at hkey
    cases s with
    | configure service level => exact (ih h.of_concat hkey).concat (by simp) (by simp)
    | bind fields => exact (ih h.of_concat hkey).concat (by simp) (by simp)
    | acquire k logger =>
      dsimp only at hkey
      by_cases hk : k = key
      · subst hk
        rw [if_pos rfl] at hkey
        obtain rfl := Option.some.inj hkey
        exact unused_acquire k logger steps
      · rw [if_neg hk] at hkey
        exact (ih h.of_concat hkey).concat (by simp) (by simp [hk])
    | emit k entry time =>
      obtain ⟨handle, hhandle, rfl⟩ := Option.map_eq_some_iff.mp hkey
      have hbefore : TakesOver key steps handle.service :=
        ih h.of_concat (by rw [hhandle, Option.map_some])
      by_cases hk : k = key
      · subst hk
        rw [if_pos rfl, (configured_after h.of_concat).2]
        exact hbefore.emit entry time
      · rw [if_neg hk]
        exact hbefore.concat (by simp [hk]) (by simp)

/-- A desk that is configured knows the threshold of the first configuration. -/
theorem threshold_after {steps : List Step} (h : EachSucceeds steps) {level : String}
    (hlevel : firstLevel? steps = some level) :
    ∃ least, Log.threshold level = .ok least ∧ (after {} steps).threshold = some least := by
  have hthreshold := (configured_after h).1
  rw [hlevel, Option.map_some] at hthreshold
  obtain ⟨least, hleast, hok⟩ := Option.map_eq_some_iff.mp hthreshold
  exact ⟨least, hok.symm, hleast⟩

/-- All configurations succeed exactly if the first does. -/
theorem eachSucceeds_iff {steps : List Step} :
    EachSucceeds steps ↔
      ∀ level, firstLevel? steps = some level → ∃ least, Log.threshold level = .ok least := by
  constructor
  · intro h level hlevel
    obtain ⟨least, hleast, -⟩ := threshold_after h hlevel
    exact ⟨least, hleast⟩
  · intro h
    induction steps using List.reverseRecOn with
    | nil =>
      intro early service level late hsplit
      simp at hsplit
    | append_singleton steps s ih =>
      have hbefore : EachSucceeds steps := ih fun level hlevel =>
        h level (by rw [firstLevel?_concat, hlevel, Option.some_or])
      intro early service level late hsplit
      rcases concat_eq_append_cons hsplit with ⟨-, rfl, rfl⟩ | ⟨between, -, hsteps⟩
      · have hthreshold := (configured_after hbefore).1
        unfold configure
        cases hfirst : firstLevel? early with
        | some first =>
          obtain ⟨least, -, hleast⟩ := threshold_after hbefore hfirst
          rw [hleast]
        | none =>
          rw [hfirst, Option.map_none, Option.map_eq_none_iff] at hthreshold
          obtain ⟨least, hleast⟩ := h level (by rw [firstLevel?_concat, hfirst]; rfl)
          simp only [hthreshold, hleast]
      · exact hbefore early service level between hsteps

/-! ## Lines -/

end Desk

/-- The service that a line tells is what was handed over under that name, or else that of the line. -/
theorem service_members (setting : Setting) (entry : Entry) :
    Json.member? "service" (members setting entry) = some
      (((Json.member? "service" entry.fields).or (Json.member? "service" setting.context)).getD
        (Json.ofString setting.service)) := by
  have hmasked : masked (Text.ofString "service") = id := by
    funext value
    rw [masked, if_neg (by decide)]
    rfl
  rw [Json.member?, get?_members (by decide), told, if_neg (by decide), if_neg (by decide),
    if_neg (by decide), if_neg (by decide)]
  simp only [hmasked, Option.map_id_fun, id, if_true, Json.member?]
  cases (Entries.get? (Text.ofString "service") entry.fields).or
    (Entries.get? (Text.ofString "service") setting.context) <;> rfl

namespace Desk

/-- The line of a desk that has a threshold, through a handle that has a service. -/
theorem lineFor_eq {d : Desk} {handle : Handle} {least : Nat} {service : String}
    (hthreshold : d.threshold = some least) (hservice : handle.service = some service)
    (entry : Entry) (time : String) :
    d.lineFor handle entry time =
      if entry.level.severity < least then none
      else some (line ⟨handle.logger, service, d.context, time⟩ entry) := by
  unfold lineFor
  rw [hthreshold, hservice]
  rfl

/-- After any steps whose configurations succeed, and of which the first is with some level: an entry that
can be handed over becomes a line exactly if its level is not below the threshold of that level. The line
is for the service of the last configuration before the first use of the handle, where this entry may be
the first, unless the entry or the context says otherwise. -/
theorem emit_latched {steps : List Step} (hsucceed : EachSucceeds steps) {level : String}
    (hlevel : firstLevel? steps = some level) {key logger : String}
    (hopened : lastLogger? key steps = some logger) (entry : Entry) (time : String) :
    ∃ least service context, Log.threshold level = .ok least ∧
      (∃ early, IsFirstUse key (steps ++ [.emit key entry time]) early) ∧
      (∀ early, IsFirstUse key (steps ++ [.emit key entry time]) early →
        lastService? early = some service) ∧
      (∀ name, Entries.get? name context = Entries.get? name (boundLastFirst steps)) ∧
      ((after {} steps).emit key entry time).1 =
        (match takenField? entry.level entry.fields with
          | some failure => .error failure
          | none => .ok (if entry.level.severity < least then none
            else some (line ⟨knownAs logger, service, context, time⟩ entry))) ∧
      Json.member? "service" (members ⟨knownAs logger, service, context, time⟩ entry) = some
        (((Json.member? "service" entry.fields).or (Json.member? "service" context)).getD
          (Json.ofString service)) := by
  obtain ⟨least, hleast, hthreshold⟩ := threshold_after hsucceed hlevel
  obtain ⟨last, hlast⟩ := exists_lastService? hlevel
  obtain ⟨handle, hhandle, hlogger⟩ : ∃ handle,
      Entries.get? key (after {} steps).handles = some handle ∧ handle.logger = knownAs logger := by
    have hlogger := logger_after steps key
    rw [hopened, Option.map_some] at hlogger
    exact Option.map_eq_some_iff.mp hlogger
  have hknown : TakesOver key steps handle.service :=
    takesOver_after hsucceed (by rw [hhandle, Option.map_some])
  -- After this entry the handle has a service, because it takes one over at the latest now.
  have htakes := hknown.emit entry time
  rw [← (configured_after hsucceed).2] at hlast htakes
  obtain ⟨service, hservice⟩ : ∃ service,
      handle.service.or (after {} steps).service = some service := by
    cases handle.service with
    | none => exact ⟨last, by rw [Option.none_or, hlast]⟩
    | some service => exact ⟨service, rfl⟩
  rw [hservice] at htakes
  obtain ⟨early, hfirst, hearly⟩ := htakes
  refine ⟨least, service, (after {} steps).context, hleast, ⟨early, hfirst⟩,
    fun other hother => ?_, (context_after steps).1, ?_, service_members _ entry⟩
  · rw [hother.unique hfirst, hearly]
  · rw [emit_of_some hhandle, ← hlogger]
    cases takenField? entry.level entry.fields with
    | some failure => rfl
    | none => exact congrArg Except.ok (lineFor_eq hthreshold hservice entry time)

/-- A handle that is written through before the desk is configured, then once more, in vain, and then the
desk is configured again. -/
def reconfigured : List Step :=
  [.acquire "log" "app", .emit "log" ⟨.info, "early", []⟩ "now", .configure "one" "info",
    .emit "log" ⟨.debug, "unseen", []⟩ "now", .configure "two" "debug"]

/-- The entry in vain was the first use, so the handle keeps to the first configuration, and a line is
written because the threshold does too. -/
theorem emit_latched_reconfigured : ∃ context,
    IsFirstUse "log" (reconfigured ++ [.emit "log" ⟨.info, "late", []⟩ "now"])
        (reconfigured.take 3) ∧
      lastService? (reconfigured.take 3) = some "one" ∧
      ((after {} reconfigured).emit "log" ⟨.info, "late", []⟩ "now").1 =
        .ok (some (line ⟨"app", "one", context, "now"⟩ ⟨.info, "late", []⟩)) ∧
      ((after {} reconfigured).emit "log" ⟨.info, "late", []⟩ "now").1.toOption = some (some
        ("\x7b\"event\": \"late\", \"level\": \"info\", \"logger\": \"app\", " ++
          "\"timestamp\": \"now\", \"service\": \"one\"\x7d")) := by
  have hlevel : firstLevel? reconfigured = some "info" := rfl
  have hsucceed : EachSucceeds reconfigured := eachSucceeds_iff.mpr fun level hfirst => by
    obtain rfl := Option.some.inj (hlevel.symm.trans hfirst)
    exact ⟨20, rfl⟩
  have hearly : Unused "log" (reconfigured.take 2) :=
    unused_of_not_isConfigure (by simp [reconfigured, Step.IsConfigure])
  have hunused : Unused "log" (reconfigured.take 3) := hearly.concat (by simp)
  have huse : IsFirstUse "log" (reconfigured.take 4) (reconfigured.take 3) :=
    hunused.isFirstUse ⟨.configure "one" "info", by simp [reconfigured], trivial⟩ _ _
  have hfirst : IsFirstUse "log" (reconfigured ++ [.emit "log" ⟨.info, "late", []⟩ "now"])
      (reconfigured.take 3) :=
    (huse.concat (s := .configure "two" "debug") (by simp)).concat (by simp)
  obtain ⟨least, service, context, hleast, -, hservice, -, hemit, -⟩ :=
    emit_latched hsucceed hlevel (show lastLogger? "log" reconfigured = some "app" by decide)
      ⟨.info, "late", []⟩ "now"
  obtain rfl : "one" = service := Option.some.inj (hservice _ hfirst)
  obtain rfl : 20 = least := Except.ok.inj hleast
  exact ⟨context, hfirst, rfl, hemit, by decide +kernel⟩

end Desk

end IamLogin.Log
