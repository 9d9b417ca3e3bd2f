import IamLogin.Log.Line
import IamLogin.Proofs.Json.RoundTrip

/-!
# What a log line says

A line is put together by writing to one set of entries several times, so it depends on the order what
overrides what and what is masked. This file says what comes of it, name by name: the level, the logger
and the time are those of the line, whatever was handed over under these names; any other name has the
value of the event's own fields, or else of the context, with the mask in the place of a secret; and the
service is the configured one unless a value for it was handed over. The members of a line have
different names, so this says all there is in a line. No more is known of a secret than that there is
one: masking before the line is put together makes no difference.
-/

namespace IamLogin

namespace Log

/-! ## Masking -/

/-- The value under a name, or the mask if the name is that of a secret. -/
def masked (name : Text) (value : Json) : Json :=
  if isSecret name then Json.ofString mask else value

/-- Whether two lots of fields are the same but for secrets. -/
def SameButSecrets (fields others : Json.Members) : Prop := redact fields = redact others

/-- Looking up after masking finds the masked value. -/
theorem get?_redact (fields : Json.Members) (name : Text) :
    Entries.get? name (redact fields) = (Entries.get? name fields).map (masked name) := by
  induction fields with
  | nil => rfl
  | cons f rest ih =>
    have hredact : redact (f :: rest) = (f.1, masked f.1 f.2) :: redact rest := rfl
    rw [hredact, Entries.get?, Entries.get?, ih]
    split
    · case isTrue hname => rw [hname, Option.map_some]
    · rfl

/-- Writing a field and masking is masking and writing the masked field. -/
theorem redact_put (fields : Json.Members) (name : Text) (value : Json) :
    redact (Entries.put name value fields) = Entries.put name (masked name value) (redact fields) := by
  induction fields with
  | nil => rfl
  | cons f rest ih =>
    have hredact : redact (f :: rest) = (f.1, masked f.1 f.2) :: redact rest := rfl
    rw [hredact, Entries.put, Entries.put]
    split
    · case isTrue hname =>
      rw [hname]
      rfl
    · rw [← ih]
      rfl

/-- The same is true of writing a new field. -/
theorem redact_putNew (fields : Json.Members) (name : Text) (value : Json) :
    redact (Entries.putNew name value fields) =
      Entries.putNew name (masked name value) (redact fields) := by
  unfold Entries.putNew
  rw [get?_redact, Option.isSome_map]
  split
  · rfl
  · exact List.map_append

/-- The same is true of writing many new fields. -/
theorem redact_foldl_putNew (more fields : Json.Members) :
    redact (more.foldl (fun fs f => Entries.putNew f.1 f.2 fs) fields) =
      (redact more).foldl (fun fs f => Entries.putNew f.1 f.2 fs) (redact fields) := by
  induction more generalizing fields with
  | nil => rfl
  | cons f more ih =>
    rw [List.foldl_cons, ih, redact_putNew]
    rfl

/-! ## Putting a line together -/

/-- What is put together before secrets are masked. -/
def gathered (setting : Setting) (entry : Entry) : Json.Members :=
  let put (name value : String) : Json.Members → Json.Members :=
    Entries.put (Text.ofString name) (Json.ofString value)
  put "timestamp" setting.time (put "logger" setting.logger (put "level" entry.level.name
    (setting.context.foldl (fun fields f => Entries.putNew f.1 f.2 fields)
      (put "event" entry.text entry.fields))))

/-- A line is what was put together, masked, with the service and without what was to be formatted. -/
theorem members_eq (setting : Setting) (entry : Entry) :
    members setting entry = Entries.erase (Text.ofString "exc_info")
      (Entries.putNew (Text.ofString "service") (Json.ofString setting.service)
        (redact (gathered setting entry))) := rfl

/-- No name that a line has of its own is that of a secret. -/
theorem masked_own (name : String) (hname : name ∈ ["event", "level", "logger", "timestamp"])
    (value : Json) : masked (Text.ofString name) value = value := by
  have hnot : ∀ name ∈ ["event", "level", "logger", "timestamp"],
      isSecret (Text.ofString name) = false := by decide
  rw [masked, hnot name hname]
  rfl

/-- Masking what is put together is putting together what is masked. -/
theorem redact_gathered (setting : Setting) (entry : Entry) :
    redact (gathered setting entry) =
      gathered { setting with context := redact setting.context }
        { entry with fields := redact entry.fields } := by
  simp only [gathered, redact_put, redact_foldl_putNew]
  rw [masked_own "event" (by simp), masked_own "level" (by simp), masked_own "logger" (by simp),
    masked_own "timestamp" (by simp)]

/-- A line does not depend on its secrets. -/
theorem members_eq_of_sameButSecrets {setting : Setting} {entry : Entry}
    {context fields : Json.Members} (hcontext : SameButSecrets context setting.context)
    (hfields : SameButSecrets fields entry.fields) :
    members { setting with context } { entry with fields } = members setting entry := by
  rw [members_eq, members_eq, redact_gathered, redact_gathered, hcontext, hfields]

/-- What a line says under a name. -/
def told (setting : Setting) (entry : Entry) (name : Text) : Option Json :=
  if name = Text.ofString "level" then some (Json.ofString entry.level.name)
  else if name = Text.ofString "logger" then some (Json.ofString setting.logger)
  else if name = Text.ofString "timestamp" then some (Json.ofString setting.time)
  else if name = Text.ofString "event" then some (Json.ofString entry.text)
  else
    let given := (Entries.get? name entry.fields).or (Entries.get? name setting.context)
    let service := if name = Text.ofString "service" then some (Json.ofString setting.service) else none
    (given.map (masked name)).or service

/-- What is put together, name by name. -/
theorem get?_gathered (setting : Setting) (entry : Entry) (name : Text) :
    Entries.get? name (gathered setting entry) =
      if Text.ofString "timestamp" = name then some (Json.ofString setting.time)
      else if Text.ofString "logger" = name then some (Json.ofString setting.logger)
      else if Text.ofString "level" = name then some (Json.ofString entry.level.name)
      else (if Text.ofString "event" = name then some (Json.ofString entry.text)
        else Entries.get? name entry.fields).or (Entries.get? name setting.context) := by
  simp only [gathered, Entries.get?_put, Entries.get?_foldl_putNew]

/-- The members of a line say what the line should say. -/
theorem get?_members {setting : Setting} {entry : Entry} {name : Text}
    (hname : name ≠ Text.ofString "exc_info") :
    Entries.get? name (members setting entry) = told setting entry name := by
  have hinjective : ∀ s t : String, Text.ofString s = Text.ofString t ↔ s = t :=
    fun s t => ⟨Text.ofString_injective, congrArg Text.ofString⟩
  rw [members_eq, Entries.get?_erase, if_neg hname.symm, Entries.get?_putNew, get?_redact,
    get?_gathered, told]
  by_cases hlevel : name = Text.ofString "level"
  · simp [hlevel, hinjective, masked_own]
  by_cases hlogger : name = Text.ofString "logger"
  · simp [hlogger, hinjective, masked_own]
  by_cases htime : name = Text.ofString "timestamp"
  · simp [htime, hinjective, masked_own]
  by_cases hevent : name = Text.ofString "event"
  · simp [hevent, hinjective, masked_own]
  · simp only [if_neg hlevel, if_neg hlogger, if_neg htime, if_neg hevent, eq_comm]

/-- The members of a line have different names. -/
theorem nodup_keys_members (setting : Setting) {entry : Entry}
    (h : (Entries.keys entry.fields).Nodup) : (Entries.keys (members setting entry)).Nodup := by
  rw [members_eq]
  refine Entries.nodup_keys_erase (Entries.nodup_keys_putNew ?_ _ _) _
  rw [keys_redact]
  exact Entries.nodup_keys_put (Entries.nodup_keys_put (Entries.nodup_keys_put
    (Entries.nodup_keys_foldl_putNew (Entries.nodup_keys_put h _ _) _) _ _) _ _) _ _

/-! ## Writing and reading a line -/

/-- Whether fields can be handed over with an event or a context: JSON can say them, and none of them
is something to be formatted. -/
structure Admissible (room : Nat) (fields : Json.Members) : Prop where
  /-- The names are texts that JSON can say. -/
  names : ∀ f ∈ fields, f.1.IsJoined
  /-- The values are values that JSON can say. -/
  values : ∀ f ∈ fields, Json.Legible room f.2
  /-- No name is one of the two that stand for something else than a value. -/
  plain : ∀ f ∈ fields, f.1 ≠ Text.ofString "exc_info" ∧ f.1 ≠ Text.ofString "_record"

/-- What fields and a context have to do with each other is told under names and with values that JSON
can say. -/
theorem Admissible.of_get? {room : Nat} {fields : Json.Members} (h : Admissible room fields)
    {name : Text} {value : Json} (hvalue : Entries.get? name fields = some value) :
    name.IsJoined ∧ Json.Legible room value ∧ name ≠ Text.ofString "exc_info" :=
  have hmem := Entries.mem_of_get? hvalue
  ⟨h.names _ hmem, h.values _ hmem, (h.plain _ hmem).1⟩

/-- Whatever a line says, JSON can say, and it says nothing of what was to be formatted. -/
theorem legible_of_told {room : Nat} {setting : Setting} {entry : Entry}
    (hfields : Admissible room entry.fields) (hcontext : Admissible room setting.context)
    {name : Text} {value : Json} (h : told setting entry name = some value) :
    name.IsJoined ∧ Json.Legible room value ∧ name ≠ Text.ofString "exc_info" := by
  have hown : ∀ key text : String, key ≠ "exc_info" → name = Text.ofString key →
      some (Json.ofString text) = some value →
      name.IsJoined ∧ Json.Legible room value ∧ name ≠ Text.ofString "exc_info" := by
    rintro key text hkey rfl hvalue
    obtain rfl := Option.some.inj hvalue
    exact ⟨Text.isJoined_ofString key, .ofString text, fun heq => hkey (Text.ofString_injective heq)⟩
  rw [told] at h
  split at h
  · case isTrue hname => exact hown "level" _ (by decide) hname h
  split at h
  · case isTrue hname => exact hown "logger" _ (by decide) hname h
  split at h
  · case isTrue hname => exact hown "timestamp" _ (by decide) hname h
  split at h
  · case isTrue hname => exact hown "event" _ (by decide) hname h
  · dsimp only at h
    rcases Option.or_eq_some_iff.mp h with hgiven | ⟨-, hservice⟩
    · obtain ⟨raw, hraw, rfl⟩ := Option.map_eq_some_iff.mp hgiven
      have hlegible : name.IsJoined ∧ Json.Legible room raw ∧ name ≠ Text.ofString "exc_info" := by
        rcases Option.or_eq_some_iff.mp hraw with hfield | ⟨-, hcontextual⟩
        · exact hfields.of_get? hfield
        · exact hcontext.of_get? hcontextual
      refine ⟨hlegible.1, ?_, hlegible.2.2⟩
      unfold masked
      split
      · exact .ofString mask
      · exact hlegible.2.1
    · split at hservice
      · case isTrue hname => exact hown "service" _ (by decide) hname hservice
      · cases hservice

/-- The members of a line say what the line should say, under every name. -/
theorem get?_members_of_admissible {room : Nat} {setting : Setting} {entry : Entry}
    (hfields : Admissible room entry.fields) (hcontext : Admissible room setting.context)
    (name : Text) : Entries.get? name (members setting entry) = told setting entry name := by
  by_cases hname : name = Text.ofString "exc_info"
  · have hnone : Entries.get? name (members setting entry) = none := by
      rw [members_eq, Entries.get?_erase, if_pos hname.symm]
    rw [hnone]
    cases htold : told setting entry name with
    | none => rfl
    | some value => exact absurd hname (legible_of_told hfields hcontext htold).2.2
  · exact get?_members hname

/-- The members of a line make an object that JSON can say. -/
theorem legible_members {room : Nat} {setting : Setting} {entry : Entry}
    (hkeys : (Entries.keys entry.fields).Nodup) (hfields : Admissible room entry.fields)
    (hcontext : Admissible room setting.context) :
    Json.Legible (room + 1) (.obj (members setting entry)) := by
  have hnodup := nodup_keys_members setting hkeys
  have htold : ∀ f ∈ members setting entry, told setting entry f.1 = some f.2 := by
    intro f hf
    rw [← get?_members_of_admissible hfields hcontext]
    exact Entries.get?_of_mem hnodup hf
  exact .obj (fun f hf => (legible_of_told hfields hcontext (htold f hf)).1) hnodup
    fun f hf => (legible_of_told hfields hcontext (htold f hf)).2.1

/-- What a line is to be: printable, and an object that says what the line should say. -/
structure Faithful (room : Nat) (setting : Setting) (entry : Entry) (line : String) : Prop where
  /-- It consists of printable ASCII characters, so it is one line. -/
  printable : ∀ c ∈ line.toList, 0x20 ≤ c.toNat ∧ c.toNat ≤ 0x7E
  /-- It is read as an object with different names, which says under every name what it should say. -/
  decoded : ∃ members, Json.readWithin (room + 1) (Text.ofString line) = .ok (.obj members) ∧
    (Entries.keys members).Nodup ∧ ∀ name, Entries.get? name members = told setting entry name
  /-- It would be the same with other secrets. -/
  discreet : ∀ context fields, SameButSecrets context setting.context →
    SameButSecrets fields entry.fields →
    Log.line { setting with context } { entry with fields } = line

/-- A line is what it is to be. -/
theorem faithful_line {room : Nat} {setting : Setting} {entry : Entry}
    (hkeys : (Entries.keys entry.fields).Nodup) (hfields : Admissible room entry.fields)
    (hcontext : Admissible room setting.context) :
    Faithful room setting entry (line setting entry) where
  printable c hc := by
    rw [line, Json.render, String.toList_ofList] at hc
    have hwritten := Json.Writer.isWritten_of_mem_value Json.Style.line_separates
      (legible_members hkeys hfields hcontext) hc
    exact ⟨hwritten.1, hwritten.2 rfl⟩
  decoded := by
    refine ⟨members setting entry, ?_, nodup_keys_members setting hkeys,
      get?_members_of_admissible hfields hcontext⟩
    rw [line, Json.render, Text.ofString, String.toList_ofList]
    exact Json.readWithin_value Json.Style.line_separates (legible_members hkeys hfields hcontext)
  discreet context fields hcontext' hfields' := by
    rw [line, members_eq_of_sameButSecrets hcontext' hfields']
    rfl

end Log

end IamLogin
