import IamLogin.Credential
import IamLogin.Proofs.Entries
import IamLogin.Proofs.Fields
import Mathlib.Logic.Relation

/-!
# Credentials in key files

Three members of a key file count, each by itself: two have to be texts, and the third may also be null
or absent. If all are as they should be, the credential consists of them and of the token beside the file;
if not, there is one issue for each that is not, in the order of the fields. A text is taken as it is, lone
halves and all.

Nothing else in a key file matters. A member of another name may come, go or change, the token of the file
among them, and the members may stand in any order.
-/

namespace IamLogin

namespace Credential

/-- The member of a key file that may be absent. -/
def keyName : String := "private_key_id"

/-- The members of a key file that count, in the order of the fields. -/
def fileNames : List String := ["client_email", "project_id", keyName]

/-! ## What a key file says -/

/-- Whether an object has texts where a credential needs them. -/
structure IsKeyFile (info : Json.Members) : Prop where
  /-- The account is a text. -/
  clientEmail : ∃ email, Json.member? "client_email" info = some (.str email)
  /-- The project is a text. -/
  projectId : ∃ project, Json.member? "project_id" info = some (.str project)
  /-- The key is absent, null or a text. -/
  privateKeyId : Json.member? keyName info = none ∨
    ∃ key?, Json.member? keyName info = some (Json.ofText? key?)

/-- Whether a credential has the values of an object, whatever its token. -/
structure IsToldBy (c : Credential) (info : Json.Members) : Prop where
  /-- The account is that of the object. -/
  clientEmail : Json.member? "client_email" info = some (.str c.clientEmail)
  /-- The project is that of the object. -/
  projectId : Json.member? "project_id" info = some (.str c.projectId)
  /-- The key is that of the object, and there is none if the object has none. -/
  privateKeyId : Json.member? keyName info = none ∧ c.privateKeyId = none ∨
    Json.member? keyName info = some (Json.ofText? c.privateKeyId)

/-- What is wrong with a member of an object. -/
inductive Flaw (info : Json.Members) (name : String) : Problem → Prop
  /-- It is absent where it is needed. -/
  | missing : Json.member? name info = none → name ≠ keyName → Flaw info name .missing
  /-- It is no text, and not null where it may be null. -/
  | noText {v : Json} : Json.member? name info = some v → (name = keyName → v ≠ .null) →
    (∀ t, v ≠ .str t) → Flaw info name .notText

/-- Whether there is exactly one issue for each of the named members that has a flaw, in their order. -/
inductive Reports (info : Json.Members) : List String → List Issue → Prop
  /-- There is no issue with no member. -/
  | nil : Reports info [] []
  /-- A member that is as it should be has no issue. -/
  | sound {name : String} {names : List String} {issues : List Issue} :
    (∀ problem, ¬ Flaw info name problem) → Reports info names issues →
    Reports info (name :: names) issues
  /-- A member with a flaw has an issue that names it. -/
  | flawed {name : String} {names : List String} {issues : List Issue} {problem : Problem} :
    Flaw info name problem → Reports info names issues →
    Reports info (name :: names) (⟨[Text.ofString name], problem⟩ :: issues)

/-- A change of an object that leaves the members of a key file alone. -/
inductive Change : Json.Members → Json.Members → Prop
  /-- A member of another name comes or gets another value. -/
  | put {name : Text} (value : Json) (info : Json.Members) :
    name ∉ fileNames.map Text.ofString → Change info (Entries.put name value info)
  /-- A member of another name goes. -/
  | erase {name : Text} (info : Json.Members) :
    name ∉ fileNames.map Text.ofString → Change info (Entries.erase name info)
  /-- The members stand in another order. -/
  | reorder {info other : Json.Members} :
    (Entries.keys info).Nodup → List.Perm info other → Change info other

variable {info : Json.Members} {name : String}

/-! ## Reading -/

/-- What is wrong with a member of an object, if anything is. -/
def flaw? (info : Json.Members) (name : String) : Option Problem :=
  if name = keyName then (Json.member? name info).bind (Field.problem? Field.text?)
  else (Json.member? name info).elim (some .missing) (Field.problem? Field.text)

/-- What is wrong with a value that is read as a text is that it is none. -/
theorem problem?_text_eq_some_iff {v : Json} {problem : Problem} :
    Field.problem? Field.text v = some problem ↔ (∀ t, v ≠ .str t) ∧ problem = .notText := by
  cases v <;> simp [Field.problem?, Field.text, eq_comm]

/-- What is wrong with a value that is read as a text or nothing is that it is neither null nor a text. -/
theorem problem?_text?_eq_some_iff {v : Json} {problem : Problem} :
    Field.problem? Field.text? v = some problem ↔
      v ≠ .null ∧ (∀ t, v ≠ .str t) ∧ problem = .notText := by
  cases v <;> simp [Field.problem?, Field.text?, Field.text, Except.map, eq_comm]

/-- What is wrong with a member is its flaw. -/
theorem flaw?_eq_some_iff {problem : Problem} :
    flaw? info name = some problem ↔ Flaw info name problem := by
  unfold flaw?
  constructor
  · intro h
    split at h
    · case isTrue hkey =>
      obtain ⟨v, hv, hproblem⟩ := Option.bind_eq_some_iff.mp h
      obtain ⟨hnull, hkind, rfl⟩ := problem?_text?_eq_some_iff.mp hproblem
      exact .noText hv (fun _ => hnull) hkind
    · case isFalse hkey =>
      cases hmember : Json.member? name info with
      | none =>
        rw [hmember] at h
        cases h
        exact .missing hmember hkey
      | some v =>
        rw [hmember] at h
        obtain ⟨hkind, rfl⟩ := problem?_text_eq_some_iff.mp h
        exact .noText hmember (fun heq => absurd heq hkey) hkind
  · rintro (⟨habsent, hkey⟩ | ⟨hmember, hnull, hkind⟩)
    · rw [if_neg hkey, habsent]
      rfl
    · split
      · case isTrue hkey =>
        rw [hmember]
        exact problem?_text?_eq_some_iff.mpr ⟨hnull hkey, hkind, rfl⟩
      · rw [hmember]
        exact problem?_text_eq_some_iff.mpr ⟨hkind, rfl⟩

/-- The issues with the named members of an object, in their order. -/
def issuesIn (info : Json.Members) (names : List String) : List Issue :=
  names.flatMap fun name =>
    ((flaw? info name).map fun problem => ⟨[Text.ofString name], problem⟩).toList

/-- There is exactly one report, which lists the flaws as they are found. -/
theorem reports_iff {names : List String} {issues : List Issue} :
    Reports info names issues ↔ issues = issuesIn info names := by
  constructor
  · intro h
    induction h with
    | nil => rfl
    | @sound name names issues hsound _ ih =>
      have hnone : flaw? info name = none :=
        Option.eq_none_iff_forall_ne_some.mpr fun problem h =>
          hsound problem (flaw?_eq_some_iff.mp h)
      rw [issuesIn, List.flatMap_cons, hnone, ih]
      rfl
    | flawed hflaw _ ih =>
      rw [issuesIn, List.flatMap_cons, flaw?_eq_some_iff.mpr hflaw, ih]
      rfl
  · rintro rfl
    induction names with
    | nil => exact .nil
    | cons name names ih =>
      rw [issuesIn, List.flatMap_cons]
      cases hflaw : flaw? info name with
      | none =>
        refine .sound (fun problem h => ?_) ih
        rw [flaw?_eq_some_iff.mpr h] at hflaw
        cases hflaw
      | some problem => exact .flawed (flaw?_eq_some_iff.mp hflaw) ih

/-- The token beside a file is found in place of that of the file, and the members that count are found as
they are. -/
theorem member?_put_token (info : Json.Members) (token : Json) (name : String) :
    Json.member? name (Entries.put (Text.ofString "token") token info) =
      if "token" = name then some token else Json.member? name info := by
  rw [Json.member?, Entries.get?_put]
  congr 1
  exact propext ⟨Text.ofString_injective, congrArg Text.ofString⟩

/-- The token passes, and the rest is read of the members that count. -/
theorem check_put_token (info : Json.Members) (token : Option Text) :
    check (Entries.put (Text.ofString "token") (Json.ofText? token) info) =
      Credential.mk
        <$> Field.need "client_email" Field.text (Json.member? "client_email" info)
        <*> Field.need "project_id" Field.text (Json.member? "project_id" info)
        <*> Field.allow keyName none Field.text? (Json.member? keyName info)
        <*> .valid token := by
  have htoken : Field.allow "token" none Field.text? (some (Json.ofText? token)) = .valid token :=
    Field.allow_eq_valid_iff.mpr (.inr ⟨_, rfl, Field.text?_eq_ok_iff.mpr rfl⟩)
  simp only [check, Field.required, Field.optional, member?_put_token, keyName, htoken, reduceIte,
    String.reduceEq]

/-- What is read of a key file is a credential that it tells, with the token beside it. -/
theorem check_eq_valid_iff {token : Option Text} {c : Credential} :
    check (Entries.put (Text.ofString "token") (Json.ofText? token) info) = .valid c ↔
      c.IsToldBy info ∧ c.token = token := by
  simp only [check_put_token, Checked.seq_eq_valid, Checked.map_eq_valid, Field.need_eq_valid_iff,
    Field.allow_eq_valid_iff, Field.text_eq_ok_iff, Field.text?_eq_ok_iff, Checked.valid.injEq]
  constructor
  · rintro ⟨-, -, ⟨-, key?, ⟨-, project, ⟨email, ⟨_, hemail, rfl⟩, rfl⟩, ⟨_, hproject, rfl⟩, rfl⟩, hkey,
      rfl⟩, rfl, rfl⟩
    refine ⟨⟨hemail, hproject, hkey.imp_right ?_⟩, rfl⟩
    rintro ⟨_, hmember, rfl⟩
    exact hmember
  · rintro ⟨h, rfl⟩
    exact ⟨_, _, ⟨_, _, ⟨_, _, ⟨_, ⟨_, h.clientEmail, rfl⟩, rfl⟩, ⟨_, h.projectId, rfl⟩, rfl⟩,
      h.privateKeyId.imp_right fun hmember => ⟨_, hmember, rfl⟩, rfl⟩, rfl, rfl⟩

/-- The issues with a key file are those with the members that count. -/
theorem issues_check (info : Json.Members) (token : Option Text) :
    (check (Entries.put (Text.ofString "token") (Json.ofText? token) info)).issues =
      issuesIn info fileNames := by
  have htoken : (Checked.valid token).issues = [] := rfl
  simp only [check_put_token, Checked.issues_seq, Checked.issues_map, Field.issues_need,
    Field.issues_allow, htoken, issuesIn, fileNames, List.flatMap_cons, List.flatMap_nil, flaw?,
    keyName, String.reduceEq, reduceIte, List.append_nil, List.append_assoc]

/-- A key file is valid or has an issue. -/
theorem hasReason_check (info : Json.Members) (token : Option Text) :
    (check (Entries.put (Text.ofString "token") (Json.ofText? token) info)).HasReason := by
  rw [check_put_token]
  exact ((((Field.hasReason_need _ _ _).map _).seq (Field.hasReason_need _ _ _)).seq
    (Field.hasReason_allow _ _ _ _)).seq fun _ => ⟨token, rfl⟩

/-- An object has texts where they are needed exactly if it tells a credential. -/
theorem isKeyFile_iff (token : Option Text) :
    IsKeyFile info ↔ ∃ c : Credential, c.IsToldBy info ∧ c.token = token := by
  constructor
  · rintro ⟨⟨email, hemail⟩, ⟨project, hproject⟩, habsent | ⟨key?, hkey⟩⟩
    · exact ⟨⟨email, project, none, token⟩, ⟨hemail, hproject, .inl ⟨habsent, rfl⟩⟩, rfl⟩
    · exact ⟨⟨email, project, key?, token⟩, ⟨hemail, hproject, .inr hkey⟩, rfl⟩
  · rintro ⟨c, h, -⟩
    exact ⟨⟨_, h.clientEmail⟩, ⟨_, h.projectId⟩,
      h.privateKeyId.imp And.left fun hkey => ⟨_, hkey⟩⟩

/-- A credential is made of a key file that tells it. -/
theorem ofKeyFile_eq_ok_iff {token : Option Text} {c : Credential} :
    ofKeyFile info (Json.ofText? token) = .ok c ↔ c.IsToldBy info ∧ c.token = token := by
  rw [← check_eq_valid_iff, ofKeyFile]
  cases check (Entries.put (Text.ofString "token") (Json.ofText? token) info) <;> simp

/-- A key file that tells no credential is refused for all that is wrong with it, and something is. -/
theorem ofKeyFile_of_not_isKeyFile (token : Option Text) (h : ¬ IsKeyFile info) :
    issuesIn info fileNames ≠ [] ∧
      ofKeyFile info (Json.ofText? token) = .error (.keyFile (issuesIn info fileNames)) := by
  have hnot : ∀ c, check (Entries.put (Text.ofString "token") (Json.ofText? token) info) ≠
      .valid c := fun c hvalid => h ((isKeyFile_iff token).mpr ⟨c, check_eq_valid_iff.mp hvalid⟩)
  obtain ⟨hissues, hinvalid⟩ := (hasReason_check info token).eq_invalid hnot
  rw [issues_check] at hissues hinvalid
  rw [ofKeyFile, hinvalid]
  exact ⟨hissues, rfl⟩

/-! ## Changes that make no difference -/

/-- Only the members that count are read. -/
theorem ofKeyFile_congr {other : Json.Members} (token : Option Text)
    (h : ∀ name ∈ fileNames, Json.member? name other = Json.member? name info) :
    ofKeyFile other (Json.ofText? token) = ofKeyFile info (Json.ofText? token) := by
  have hemail := h "client_email" (by simp [fileNames])
  have hproject := h "project_id" (by simp [fileNames])
  have hkey := h keyName (by simp [fileNames])
  simp only [ofKeyFile, check_put_token, hemail, hproject, hkey]

/-- A change of other members leaves the members that count as they are. -/
theorem Change.member?_eq {other : Json.Members} (h : Change info other) (hname : name ∈ fileNames) :
    Json.member? name other = Json.member? name info := by
  have hof : Text.ofString name ∈ fileNames.map Text.ofString := List.mem_map_of_mem hname
  have hne : ∀ {changed : Text}, changed ∉ fileNames.map Text.ofString →
      changed ≠ Text.ofString name := by
    rintro _ hchanged rfl
    exact hchanged hof
  cases h with
  | put value _ hother => exact (Entries.get?_put _ _ _ _).trans (if_neg (hne hother))
  | erase _ hother => exact (Entries.get?_erase _ _ _).trans (if_neg (hne hother))
  | reorder hnodup hperm => exact Entries.get?_perm hnodup hperm _

/-- So does any number of changes. -/
theorem member?_eq_of_eqvGen {other : Json.Members} (h : Relation.EqvGen Change info other)
    (hname : name ∈ fileNames) : Json.member? name other = Json.member? name info := by
  induction h with
  | rel _ _ hchange => exact hchange.member?_eq hname
  | refl _ => rfl
  | symm _ _ _ ih => exact ih.symm
  | trans _ _ _ _ _ ih ih' => exact ih'.trans ih

/-- Whatever the members of a key file and the token beside it: a credential is made of them exactly if the
account and the project are texts and the key is absent, null or a text. It has these values, and the
token beside the file. If they are not, the file is refused, for one issue with each member that is not as
it should be, in the order of the fields. Any number of changes of other members, and of the order of all
members, makes no difference to either. -/
theorem ofKeyFile_reads (info : Json.Members) (token : Option Text) :
    ((∃ c, ofKeyFile info (Json.ofText? token) = .ok c) ↔ IsKeyFile info) ∧
    (∀ c, ofKeyFile info (Json.ofText? token) = .ok c ↔ c.IsToldBy info ∧ c.token = token) ∧
    (¬ IsKeyFile info → ∃ failure issues, ofKeyFile info (Json.ofText? token) = .error failure ∧
      failure.kind = .credentialUnavailable ∧
      failure.cause? = some (.invalid .credential issues) ∧ issues ≠ [] ∧
      Reports info fileNames issues) ∧
    ∀ other, Relation.EqvGen Change info other →
      ofKeyFile other (Json.ofText? token) = ofKeyFile info (Json.ofText? token) := by
  refine ⟨?_, fun _ => ofKeyFile_eq_ok_iff, fun h => ?_, fun other h => ?_⟩
  · simp only [ofKeyFile_eq_ok_iff, isKeyFile_iff token]
  · obtain ⟨hissues, hrefused⟩ := ofKeyFile_of_not_isKeyFile token h
    exact ⟨_, _, hrefused, rfl, rfl, hissues, reports_iff.mpr rfl⟩
  · exact ofKeyFile_congr token fun _ hname => member?_eq_of_eqvGen h hname

/-- A project with a lone half in its name. -/
def brokenProject : Text := Text.ofString "project-" ++ [.half .first]

/-- A key file with members in no particular order, with a lone half in the project and with a token of its
own. -/
def downloaded : Json.Members :=
  [(Text.ofString "token", .int 7), (Text.ofString "project_id", .str brokenProject),
    (Text.ofString "type", Json.ofString "service_account"),
    (Text.ofString "client_email", Json.ofString "hello@world")]

/-- A key file with a number for the account, a list for the key and no project. -/
def spoiled : Json.Members :=
  [(Text.ofString "private_key_id", .arr []), (Text.ofString "client_email", .int 1)]

/-- The token beside the file is taken and its own passed over, and may be dropped as well. The spoiled file
is refused for three reasons. -/
theorem ofKeyFile_reads_downloaded :
    ofKeyFile (Entries.erase (Text.ofString "token") downloaded)
        (Json.ofText? (some (Text.ofString "ya29.t"))) =
      .ok ⟨Text.ofString "hello@world", brokenProject, none, some (Text.ofString "ya29.t")⟩ ∧
    ∃ failure, ofKeyFile spoiled (Json.ofText? none) = .error failure ∧
      failure.cause? = some (.invalid .credential
        [⟨[Text.ofString "client_email"], .notText⟩, ⟨[Text.ofString "project_id"], .missing⟩,
          ⟨[Text.ofString "private_key_id"], .notText⟩]) := by
  obtain ⟨-, hmade, -, hchange⟩ := ofKeyFile_reads downloaded (some (Text.ofString "ya29.t"))
  obtain ⟨-, -, hrefused, -⟩ := ofKeyFile_reads spoiled none
  have hemail : Json.member? "client_email" spoiled = some (.int 1) := by rfl
  constructor
  · have htoken : Change downloaded (Entries.erase (Text.ofString "token") downloaded) :=
      .erase _ (by decide)
    rw [hchange _ (.rel _ _ htoken)]
    exact (hmade _).mpr ⟨⟨by rfl, by rfl, .inl ⟨by rfl, rfl⟩⟩, rfl⟩
  · obtain ⟨failure, issues, hfailure, -, hcause, -, hreports⟩ := hrefused fun h => by
      obtain ⟨email, heq⟩ := h.clientEmail
      rw [hemail] at heq
      cases heq
    refine ⟨failure, hfailure, ?_⟩
    rw [hcause, reports_iff.mp hreports]
    rfl

end Credential

end IamLogin
