import IamLogin.Log.Desk
import IamLogin.Proofs.Log.Members

/-!
# One line for an event

A log desk that was configured once, whatever was done to it before and since, writes one line for an
event whose level is high enough and none for any other. The desk keeps the threshold and the service of
its configuration, a handle keeps the logger it was last opened for, and the context holds what was last
bound under each name; these facts are kept by every step that configures nothing, and so by all of
them. The line is read back as what it should say.
-/

namespace IamLogin.Log

/-- What is done to a log desk. -/
inductive Step where
  /-- It is configured. -/
  | configure (service level : String)
  /-- A handle is opened for a logger. -/
  | acquire (key logger : String)
  /-- Fields that every line has are bound. -/
  | bind (fields : Json.Members)
  /-- An entry is written through a handle. -/
  | emit (key : String) (entry : Entry) (time : String)

namespace Step

/-- Whether a step configures the desk. -/
def IsConfigure : Step → Prop
  | configure .. => True
  | _ => False

/-- The logger for which a step opens a handle. -/
def logger? (key : String) : Step → Option String
  | acquire k logger => if k = key then some logger else none
  | _ => none

/-- The fields that a step binds. -/
def bound : Step → Json.Members
  | bind fields => fields
  | _ => []

end Step

/-- The logger for which a handle was last opened. -/
def lastLogger? (key : String) (steps : List Step) : Option String :=
  (steps.filterMap (Step.logger? key)).getLast?

/-- The fields that were bound, the last ones first. -/
def boundLastFirst (steps : List Step) : Json.Members := (steps.flatMap Step.bound).reverse

/-- Whether a desk is configured once, for a service and with a level. -/
def ConfiguredOnce (service level : String) (steps : List Step) : Prop :=
  ∃ before later, steps = before ++ .configure service level :: later ∧
    ∀ step ∈ before ++ later, ¬ step.IsConfigure

namespace Desk

/-- The desk after a step. -/
def step (d : Desk) : Step → Desk
  | .configure service level => (d.configure service level).2
  | .acquire key logger => d.openHandle key logger
  | .bind fields => d.bind fields
  | .emit key entry time => (d.emit key entry time).2

/-- The desk after steps. -/
def after (d : Desk) (steps : List Step) : Desk := steps.foldl step d

/-- The last step is taken at the desk that the others left. -/
theorem after_concat (d : Desk) (steps : List Step) (s : Step) :
    d.after (steps ++ [s]) = (d.after steps).step s := by
  rw [after, List.foldl_concat]
  rfl

/-- Steps can be taken in two stretches. -/
theorem after_append (d : Desk) (steps more : List Step) :
    d.after (steps ++ more) = (d.after steps).after more := List.foldl_append

/-! ## What a step keeps -/

variable {d : Desk}

/-- Writing through a handle that there is not does nothing. -/
theorem emit_of_none {key : String} (h : Entries.get? key d.handles = none) (entry : Entry)
    (time : String) : d.emit key entry time = (.ok none, d) := by
  rw [emit, h]

/-- Writing through a handle that there is makes it take over the service. -/
theorem emit_of_some {key : String} {handle : Handle}
    (h : Entries.get? key d.handles = some handle) (entry : Entry) (time : String) :
    let used := { handle with service := handle.service.or d.service }
    let kept := { d with handles := Entries.put key used d.handles }
    d.emit key entry time =
      (match takenField? entry.level entry.fields with
        | some failure => .error failure
        | none => .ok (kept.lineFor used entry time), kept) := by
  rw [emit, h]
  dsimp only
  cases takenField? entry.level entry.fields <;> rfl

/-- What is true of a desk that has a threshold and a service, or lacks both. -/
structure Settled (least : Option Nat) (subject : Option String) (d : Desk) : Prop where
  /-- The threshold. -/
  threshold : d.threshold = least
  /-- The service. -/
  service : d.service = subject
  /-- A handle that has taken over a service has taken over this one. -/
  handles : ∀ key handle, Entries.get? key d.handles = some handle →
    handle.service.or subject = subject

/-- A step that configures nothing leaves the threshold and the service alone. -/
theorem Settled.step {least : Option Nat} {subject : Option String} (h : Settled least subject d)
    {s : Step} (hs : ¬ s.IsConfigure) : Settled least subject (d.step s) := by
  cases s with
  | configure => exact absurd trivial hs
  | acquire key logger =>
    refine ⟨h.threshold, h.service, fun other handle hother => ?_⟩
    rw [Desk.step, openHandle, Entries.get?_put] at hother
    split at hother
    · obtain rfl := Option.some.inj hother
      rfl
    · exact h.handles other handle hother
  | bind fields => exact ⟨h.threshold, h.service, h.handles⟩
  | emit key entry time =>
    cases hkey : Entries.get? key d.handles with
    | none =>
      rw [Desk.step, emit_of_none hkey]
      exact h
    | some used =>
      rw [Desk.step, emit_of_some hkey]
      refine ⟨h.threshold, h.service, fun other handle hother => ?_⟩
      rw [Entries.get?_put] at hother
      split at hother
      · obtain rfl := Option.some.inj hother
        rw [h.service, h.handles key used hkey, Option.or_self]
      · exact h.handles other handle hother

/-- The first configuration settles a desk that has neither threshold nor service. -/
theorem Settled.configure (h : Settled none none d) {service level : String} {least : Nat}
    (hlevel : Log.threshold level = .ok least) :
    Settled (some least) (some service) (d.step (.configure service level)) := by
  have hconfigure : d.step (.configure service level) =
      { d with threshold := some least, service := some service } := by
    simp only [Desk.step, Desk.configure, h.threshold, hlevel]
  rw [hconfigure]
  refine ⟨rfl, rfl, fun key handle hkey => ?_⟩
  have hnone := h.handles key handle hkey
  rw [Option.or_none] at hnone
  rw [hnone, Option.none_or]

/-- A configuration leaves the handles and the context alone. -/
theorem configure_keeps (d : Desk) (service level : String) :
    (d.configure service level).2.handles = d.handles ∧
      (d.configure service level).2.context = d.context := by
  unfold configure
  split
  · exact ⟨rfl, rfl⟩
  · split <;> exact ⟨rfl, rfl⟩

/-- The name that a logger goes by. -/
def knownAs (logger : String) : String := if logger.isEmpty then "root" else logger

/-- A handle has the logger that it is opened for, and keeps it. -/
theorem logger_step (d : Desk) (s : Step) (key : String) :
    (Entries.get? key (d.step s).handles).map Handle.logger =
      ((s.logger? key).map knownAs).or ((Entries.get? key d.handles).map Handle.logger) := by
  cases s with
  | configure service level =>
    rw [Desk.step, (d.configure_keeps service level).1]
    rfl
  | acquire k logger =>
    rw [Desk.step, openHandle, Entries.get?_put, Step.logger?]
    split <;> rfl
  | bind fields => rfl
  | emit k entry time =>
    cases hk : Entries.get? k d.handles with
    | none =>
      rw [Desk.step, emit_of_none hk]
      rfl
    | some handle =>
      rw [Desk.step, emit_of_some hk, Entries.get?_put]
      split
      · case isTrue hkey =>
        rw [← hkey, hk]
        rfl
      · rfl

/-- The context has what is bound last. -/
theorem context_step (d : Desk) (s : Step) :
    (d.step s).context = s.bound.foldl (fun context f => Entries.put f.1 f.2 context) d.context := by
  cases s with
  | configure service level => exact (d.configure_keeps service level).2
  | acquire k logger => rfl
  | bind fields => rfl
  | emit k entry time =>
    cases hk : Entries.get? k d.handles with
    | none =>
      rw [Desk.step, emit_of_none hk]
      rfl
    | some handle =>
      rw [Desk.step, emit_of_some hk]
      rfl

/-! ## What all steps keep -/

/-- Steps that configure nothing leave the threshold and the service alone. -/
theorem Settled.after {least : Option Nat} {subject : Option String} (h : Settled least subject d)
    {steps : List Step} (hsteps : ∀ s ∈ steps, ¬ s.IsConfigure) :
    Settled least subject (d.after steps) := by
  induction steps generalizing d with
  | nil => exact h
  | cons s steps ih =>
    exact ih (h.step (hsteps s List.mem_cons_self))
      fun s' hs' => hsteps s' (List.mem_cons_of_mem s hs')

/-- A desk that was never configured has neither threshold nor service. -/
theorem settled_of_not_isConfigure {steps : List Step} (h : ∀ s ∈ steps, ¬ s.IsConfigure) :
    Settled none none (after {} steps) := by
  have hfresh : Settled none none {} := ⟨rfl, rfl, fun key handle hkey => by cases hkey⟩
  exact hfresh.after h

/-- A desk that is configured once is settled from then on. -/
theorem settled_of_configuredOnce {service level : String} {steps : List Step} {least : Nat}
    (h : ConfiguredOnce service level steps) (hlevel : Log.threshold level = .ok least) :
    Settled (some least) (some service) (after {} steps) := by
  obtain ⟨before, later, rfl, hsteps⟩ := h
  have hbefore := settled_of_not_isConfigure fun s hs => hsteps s (List.mem_append_left later hs)
  rw [after_append]
  exact (hbefore.configure hlevel).after fun s hs => hsteps s (List.mem_append_right before hs)

/-- A handle has the logger for which it was opened last. -/
theorem logger_after (steps : List Step) (key : String) :
    (Entries.get? key (after {} steps).handles).map Handle.logger =
      (lastLogger? key steps).map knownAs := by
  induction steps using List.reverseRecOn with
  | nil => rfl
  | append_singleton steps s ih =>
    have hlast : lastLogger? key (steps ++ [s]) = (s.logger? key).or (lastLogger? key steps) := by
      unfold lastLogger?
      rw [List.filterMap_append, List.getLast?_append]
      cases hlogger : s.logger? key <;> simp [hlogger]
    rw [after_concat, logger_step, ih, hlast, Option.map_or]

/-- The context has under every name what was last bound under it, and nothing else. -/
theorem context_after (steps : List Step) :
    (∀ name, Entries.get? name (after {} steps).context =
      Entries.get? name (boundLastFirst steps)) ∧
      ∀ f ∈ (after {} steps).context, f ∈ boundLastFirst steps := by
  induction steps using List.reverseRecOn with
  | nil => exact ⟨fun name => rfl, fun f hf => hf⟩
  | append_singleton steps s ih =>
    have hbound : boundLastFirst (steps ++ [s]) = s.bound.reverse ++ boundLastFirst steps := by
      unfold boundLastFirst
      rw [List.flatMap_append, List.reverse_append, List.flatMap_singleton]
    rw [after_concat, context_step, hbound]
    constructor
    · intro name
      rw [Entries.get?_foldl_put, Entries.get?_append, ih.1]
    · intro f hf
      rcases Entries.mem_foldl_put hf with hf | hf
      · exact List.mem_append_left _ (List.mem_reverse.mpr hf)
      · exact List.mem_append_right _ (ih.2 f hf)

/-! ## Lines -/

/-- Fields without taken names are handed over. -/
theorem takenField?_eq_none {level : Level} {fields : Json.Members}
    (h : ∀ f ∈ fields, ∀ name ∈ ["event", "self", "method_name"], f.1 ≠ Text.ofString name) :
    takenField? level fields = none := by
  have hown : fields.find? (fun f => decide (f.1 = Text.ofString "event" ∨
      f.1 = Text.ofString "self")) = none := by
    rw [List.find?_eq_none]
    intro f hf
    simpa using ⟨h f hf "event" (by simp), h f hf "self" (by simp)⟩
  have hmethod : Json.member? "method_name" fields = none := by
    cases hmember : Json.member? "method_name" fields with
    | none => rfl
    | some value =>
      exact absurd rfl (h _ (Entries.mem_of_get? hmember) "method_name" (by simp))
  simp only [takenField?, hown, hmethod]
  rfl

/-- Through a handle of a settled desk, an entry is written if its level is high enough. -/
theorem Settled.emit {least : Nat} {subject : String} (h : Settled (some least) (some subject) d)
    {key : String} {handle : Handle} (hkey : Entries.get? key d.handles = some handle)
    {entry : Entry}
    (hfree : ∀ f ∈ entry.fields, ∀ name ∈ ["event", "self", "method_name"], f.1 ≠ Text.ofString name)
    (time : String) :
    (d.emit key entry time).1 = .ok (if entry.level.severity < least then none
      else some (line ⟨handle.logger, subject, d.context, time⟩ entry)) := by
  rw [emit_of_some hkey, takenField?_eq_none hfree]
  simp only [lineFor, h.threshold, h.service, h.handles key handle hkey, Option.bind_eq_bind,
    Option.bind_some]

/-- After a desk was configured once, whatever else was done to it, an entry through a handle is written
as one line that says what it should say, unless its level is below the threshold; then nothing is
written. `room` bounds how deeply the values are nested. What `Json.read` can read back has at most
`Json.Reader.depthLimit` levels, the line itself among them; `line` is not limited in that way, so more
room is about a reader that has it. -/
theorem emit_faithful {service level : String} {least : Nat} {steps : List Step} {room : Nat}
    {key logger : String} {entry : Entry} (hlevel : Log.threshold level = .ok least)
    (hconfigured : ConfiguredOnce service level steps)
    (hopened : lastLogger? key steps = some logger) (hlogger : logger ≠ "")
    (hcontext : Admissible room (boundLastFirst steps)) (hfields : Admissible room entry.fields)
    (hfree : ∀ f ∈ entry.fields, ∀ name ∈ ["event", "self", "method_name"], f.1 ≠ Text.ofString name)
    (hkeys : (Entries.keys entry.fields).Nodup) (time : String) :
    ∃ context, (∀ name, Entries.get? name context = Entries.get? name (boundLastFirst steps)) ∧
      (entry.level.severity < least → ((after {} steps).emit key entry time).1 = .ok none) ∧
      (least ≤ entry.level.severity → ∃ line,
        ((after {} steps).emit key entry time).1 = .ok (some line) ∧
          Faithful room { logger, service, context, time } entry line) := by
  obtain ⟨hget, hmem⟩ := context_after steps
  have hsettled := settled_of_configuredOnce hconfigured hlevel
  have hknown : knownAs logger = logger := by
    unfold knownAs
    rw [if_neg (by simpa using hlogger)]
  obtain ⟨handle, hkey, hname⟩ : ∃ handle, Entries.get? key (after {} steps).handles = some handle ∧
      handle.logger = logger := by
    have hlast := logger_after steps key
    rw [hopened, Option.map_some, hknown] at hlast
    exact Option.map_eq_some_iff.mp hlast
  have hadmissible : Admissible room (after {} steps).context :=
    { names := fun f hf => hcontext.names f (hmem f hf)
      values := fun f hf => hcontext.values f (hmem f hf)
      plain := fun f hf => hcontext.plain f (hmem f hf) }
  have hemit := hsettled.emit hkey hfree time
  rw [hname] at hemit
  refine ⟨(after {} steps).context, hget, fun hbelow => ?_, fun habove => ?_⟩
  · rw [hemit, if_pos hbelow]
  · rw [if_neg (Nat.not_lt.mpr habove)] at hemit
    exact ⟨_, hemit, faithful_line hkeys hfields hadmissible⟩

/-- A handle that is opened before the configuration, and a context with a secret and a fraction. -/
def shortHistory : List Step :=
  [.acquire "log" "app", .configure "svc" "info",
    .bind [(Text.ofString "token", Json.ofString "t"),
      (Text.ofString "ratio", .float (.ofRatio false 1 10))]]

/-- An entry with a secret. -/
def refusal : Entry :=
  ⟨.warning, "refused", [(Text.ofString "jwt", .null), (Text.ofString "tries", .int 2)]⟩

/-- Both secrets are masked, and the fraction is read back as it was. -/
theorem emit_faithful_refusal : ∃ context,
    ((after {} shortHistory).emit "log" refusal "now").1.toOption = some (some
      ("\x7b\"jwt\": \"***\", \"tries\": 2, \"event\": \"refused\", \"token\": \"***\", " ++
        "\"ratio\": 0.1, \"level\": \"warning\", \"logger\": \"app\", \"timestamp\": \"now\", " ++
        "\"service\": \"svc\"\x7d")) ∧
      ∃ line, ((after {} shortHistory).emit "log" refusal "now").1 = .ok (some line) ∧
        Faithful 0 ⟨"app", "svc", context, "now"⟩ refusal line := by
  have hproper : (Double.ofRatio false 1 10).IsProper := by decide +kernel
  have hcontext : Admissible 0 (boundLastFirst shortHistory) :=
    { names := by
        simpa [boundLastFirst, shortHistory, Step.bound] using
          ⟨Text.isJoined_ofString "ratio", Text.isJoined_ofString "token"⟩
      values := by
        simpa [boundLastFirst, shortHistory, Step.bound] using
          ⟨Json.Legible.float hproper, Json.Legible.ofString "t"⟩
      plain := by decide }
  have hfields : Admissible 0 refusal.fields :=
    { names := by
        simpa [refusal] using ⟨Text.isJoined_ofString "jwt", Text.isJoined_ofString "tries"⟩
      values := by
        simpa [refusal] using ⟨Json.Legible.null, Json.Legible.int (by decide)⟩
      plain := by decide }
  obtain ⟨context, -, -, hline⟩ := emit_faithful (show Log.threshold "info" = .ok 20 from rfl)
    ⟨[.acquire "log" "app"], [.bind _], rfl, by simp [Step.IsConfigure]⟩
    (show lastLogger? "log" shortHistory = some "app" by decide) (by decide) hcontext hfields
    (by decide) (by decide) "now"
  exact ⟨context, by decide +kernel, hline (by decide)⟩

end Desk

end IamLogin.Log
