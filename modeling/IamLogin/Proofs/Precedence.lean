import IamLogin.Proofs.Assembly
import Mathlib.Logic.Relation

/-!
# Which value counts for a field

For every field one value counts at most: that of its first keyword, or else that of the last variable
of its name, or else none, and then it is left at its default. Settings are made of these values and of
nothing else: they are the values as they are read, or else all that is wrong with them is reported, in
the order of the fields, before the keywords that name no field.

So an environment can be changed a good deal before anybody notices. A variable that names no field or
is hidden by another source comes or goes without a trace, be it readable or not, and so do two
variables of different names that change places.
-/

namespace IamLogin

namespace Settings

/-! ## What counts -/

/-- Whether a keyword is a spelling of the name of a field. -/
def IsKeywordOf (name : String) (keyword : Text) : Prop := fold keyword = Text.ofString name

/-- Whether a variable is a spelling of the name of a field. -/
def IsVariableOf (name : String) (spelling : Text) : Prop :=
  fold spelling = Text.ofString (variableStem ++ name)

instance (name : String) (keyword : Text) : Decidable (IsKeywordOf name keyword) :=
  inferInstanceAs (Decidable (fold keyword = Text.ofString name))

instance (name : String) (spelling : Text) : Decidable (IsVariableOf name spelling) :=
  inferInstanceAs (Decidable (fold spelling = Text.ofString (variableStem ++ name)))

/-- The value that counts for a field, or that there is none. -/
inductive Counts (keywords : Json.Members) (environment : Environment) (name : String) :
    Option Json → Prop
  /-- The first keyword counts. -/
  | ofKeyword {before after : Json.Members} {spelling : Text} {value : Json} :
    keywords = before ++ (spelling, value) :: after → IsKeywordOf name spelling →
    (∀ k ∈ before, ¬ IsKeywordOf name k.1) → Counts keywords environment name (some value)
  /-- Without a keyword the last variable counts, even if it is empty. -/
  | ofVariable {before after : Environment} {spelling value : Text} :
    (∀ k ∈ keywords, ¬ IsKeywordOf name k.1) → environment = before ++ (spelling, value) :: after →
    IsVariableOf name spelling → (∀ v ∈ after, ¬ IsVariableOf name v.1) →
    Counts keywords environment name (some (.str value))
  /-- Without either there is none. -/
  | ofNeither : (∀ k ∈ keywords, ¬ IsKeywordOf name k.1) →
    (∀ v ∈ environment, ¬ IsVariableOf name v.1) → Counts keywords environment name none

variable {keywords : Json.Members} {environment : Environment} {name : String}

/-- The first keyword of a field gives its value. -/
theorem fromKeywords?_eq_some_iff {value : Json} :
    fromKeywords? keywords name = some value ↔ ∃ before spelling after,
      keywords = before ++ (spelling, value) :: after ∧ IsKeywordOf name spelling ∧
        ∀ k ∈ before, ¬ IsKeywordOf name k.1 := by
  simp only [fromKeywords?, Option.map_eq_some_iff, List.find?_eq_some_iff_append, decide_eq_true_eq,
    Bool.not_eq_true', decide_eq_false_iff_not]
  constructor
  · rintro ⟨⟨spelling, value⟩, ⟨hspelling, before, after, hkeywords, hbefore⟩, rfl⟩
    exact ⟨before, spelling, after, hkeywords, hspelling, hbefore⟩
  · rintro ⟨before, spelling, after, hkeywords, hspelling, hbefore⟩
    exact ⟨(spelling, value), ⟨hspelling, before, after, hkeywords, hbefore⟩, rfl⟩

/-- Without one there is no value from the keywords. -/
theorem fromKeywords?_eq_none_iff :
    fromKeywords? keywords name = none ↔ ∀ k ∈ keywords, ¬ IsKeywordOf name k.1 := by
  simp only [fromKeywords?, Option.map_eq_none_iff, List.find?_eq_none, decide_eq_true_eq, IsKeywordOf]

/-- The variables that come later count first. -/
theorem fromEnvironment?_append (before later : Environment) (name : String) :
    fromEnvironment? (before ++ later) name =
      (fromEnvironment? later name).or (fromEnvironment? before name) := by
  simp only [fromEnvironment?, List.reverse_append, List.find?_append, Option.map_or]

/-- A variable counts only if no later one does. -/
theorem fromEnvironment?_cons (v : Text × Text) (later : Environment) (name : String) :
    fromEnvironment? (v :: later) name =
      (fromEnvironment? later name).or (if IsVariableOf name v.1 then some v.2 else none) := by
  rw [← List.singleton_append, fromEnvironment?_append]
  congr 1
  by_cases hv : IsVariableOf name v.1
  · have hdecide : decide (fold v.1 = Text.ofString (variableStem ++ name)) = true := decide_eq_true hv
    simp only [fromEnvironment?, List.reverse_singleton, List.find?_cons, hdecide, Option.map_some,
      if_pos hv]
  · have hdecide : decide (fold v.1 = Text.ofString (variableStem ++ name)) = false := decide_eq_false hv
    simp only [fromEnvironment?, List.reverse_singleton, List.find?_cons, List.find?_nil, hdecide,
      Option.map_none, if_neg hv]

/-- Without a variable there is no value from the environment. -/
theorem fromEnvironment?_eq_none_iff :
    fromEnvironment? environment name = none ↔ ∀ v ∈ environment, ¬ IsVariableOf name v.1 := by
  simp only [fromEnvironment?, Option.map_eq_none_iff, List.find?_eq_none, List.mem_reverse,
    decide_eq_true_eq, IsVariableOf]

/-- The last variable of a field gives its value. -/
theorem fromEnvironment?_eq_some_iff {value : Text} :
    fromEnvironment? environment name = some value ↔ ∃ before spelling after,
      environment = before ++ (spelling, value) :: after ∧ IsVariableOf name spelling ∧
        ∀ v ∈ after, ¬ IsVariableOf name v.1 := by
  constructor
  · intro h
    obtain ⟨⟨spelling, value⟩, hfind, rfl⟩ := Option.map_eq_some_iff.mp h
    obtain ⟨hspelling, after, before, hreverse, hafter⟩ := List.find?_eq_some_iff_append.mp hfind
    refine ⟨before.reverse, spelling, after.reverse, ?_, of_decide_eq_true hspelling, fun v hv => ?_⟩
    · rw [← environment.reverse_reverse, hreverse]
      simp
    · have hnot := hafter v (List.mem_reverse.mp hv)
      rw [Bool.not_eq_true', decide_eq_false_iff_not] at hnot
      exact hnot
  · rintro ⟨before, spelling, after, rfl, hspelling, hafter⟩
    rw [fromEnvironment?_append, fromEnvironment?_cons, fromEnvironment?_eq_none_iff.mpr hafter,
      if_pos hspelling]
    rfl

/-- The chosen value is the one that counts. -/
theorem chosen?_eq_iff {found : Option Json} :
    chosen? keywords environment name = found ↔ Counts keywords environment name found := by
  constructor
  · rintro rfl
    cases hkeyword : fromKeywords? keywords name with
    | some value =>
      obtain ⟨before, spelling, after, hkeywords, hspelling, hbefore⟩ :=
        fromKeywords?_eq_some_iff.mp hkeyword
      rw [chosen?, hkeyword]
      exact .ofKeyword hkeywords hspelling hbefore
    | none =>
      have hnone := fromKeywords?_eq_none_iff.mp hkeyword
      rw [chosen?, hkeyword, Option.none_or]
      cases hvariable : fromEnvironment? environment name with
      | some value =>
        obtain ⟨before, spelling, after, henvironment, hspelling, hafter⟩ :=
          fromEnvironment?_eq_some_iff.mp hvariable
        exact .ofVariable hnone henvironment hspelling hafter
      | none => exact .ofNeither hnone (fromEnvironment?_eq_none_iff.mp hvariable)
  · intro h
    cases h with
    | ofKeyword hkeywords hspelling hbefore =>
      rw [chosen?, fromKeywords?_eq_some_iff.mpr ⟨_, _, _, hkeywords, hspelling, hbefore⟩]
      rfl
    | ofVariable hnone henvironment hspelling hafter =>
      rw [chosen?, fromKeywords?_eq_none_iff.mpr hnone,
        fromEnvironment?_eq_some_iff.mpr ⟨_, _, _, henvironment, hspelling, hafter⟩]
      rfl
    | ofNeither hnone hnot =>
      rw [chosen?, fromKeywords?_eq_none_iff.mpr hnone, fromEnvironment?_eq_none_iff.mpr hnot]
      rfl

/-! ## Only what counts is read -/

/-- What is wrong with a value in a field, if anything is. -/
def problemIn? : String → Json → Option Problem
  | "vault_namespace" | "service_account_id" | "project_id" => Field.problem? Field.text?
  | "jwt_validity_seconds" => Field.problem? Field.positiveInteger
  | "http_timeout_seconds" => Field.problem? Field.positiveDouble
  | _ => Field.problem? Field.text

/-- The issues with the values that are given for fields, in the order of the fields. -/
def issuesWith (given : String → Option Json) : List Issue :=
  fieldNames.flatMap fun name =>
    (((given name).bind (problemIn? name)).map fun problem => ⟨[Text.ofString name], problem⟩).toList

/-- The issues are those of the given values. -/
theorem issues_ofValues (given : String → Option Json) :
    (ofValues given).issues = issuesWith given := by
  simp only [ofValues, Checked.issues_seq, Checked.issues_map, Field.issues_allow, issuesWith,
    fieldNames, List.flatMap_cons, List.flatMap_nil, List.append_assoc, List.append_nil]
  rfl

/-- There are settings unless there is an issue. -/
theorem hasReason_ofValues (given : String → Option Json) : (ofValues given).HasReason := by
  simp only [ofValues]
  repeat' first
    | exact Field.hasReason_allow _ _ _ _
    | apply Checked.HasReason.seq
    | apply Checked.HasReason.map

/-- Settings that are read of what is given pass. -/
theorem ofValues_eq_valid_iff {given : String → Option Json} {settings : Settings} :
    ofValues given = .valid settings ↔ settings.IsReadFrom given := by
  refine ⟨isReadFrom_of_ofValues, fun h => ?_⟩
  simp only [ofValues, h.serviceName, h.logLevel, h.vaultAddress, h.vaultNamespace, h.mountPath,
    h.role, h.validitySeconds, h.accountId, h.projectId, h.signerAddress, h.timeoutSeconds]
  rfl

/-- All that is wrong with what is given: with the values first, and then with keywords that name no
field. -/
def issuesAll (keywords : Json.Members) (given : String → Option Json) : List Issue :=
  issuesWith given ++ (strangers keywords).map fun k => ⟨[k], .unexpected⟩

/-- No keyword is a stranger exactly if each names a field. -/
theorem strangers_eq_nil_iff :
    strangers keywords = [] ↔ ∀ k ∈ keywords, ∃ name ∈ fieldNames, IsKeywordOf name k.1 := by
  have hnames : ∀ k : Text, (fieldNames.map Text.ofString).contains (fold k) = true ↔
      ∃ name ∈ fieldNames, IsKeywordOf name k := by
    intro k
    rw [List.contains_iff_mem, List.mem_map]
    exact exists_congr fun name => and_congr_right fun _ => eq_comm
  simp only [strangers, List.filter_eq_nil_iff, List.forall_mem_map, Bool.not_eq_true',
    Bool.not_eq_false, hnames]

/-- Settings are read exactly if every keyword names a field and every chosen value is good. -/
theorem read_eq_ok_iff {settings : Settings} :
    read keywords environment = .ok settings ↔
      (∀ k ∈ keywords, ∃ name ∈ fieldNames, IsKeywordOf name k.1) ∧
        settings.IsReadFrom (chosen? keywords environment) := by
  have hcheck : read keywords environment = .ok settings ↔
      check keywords environment = .valid settings := by
    unfold read
    cases check keywords environment <;> simp
  rw [hcheck, check, Checked.alongside_eq_valid, List.map_eq_nil_iff, strangers_eq_nil_iff,
    ofValues_eq_valid_iff, and_comm]

/-- Otherwise the failure lists all issues. -/
theorem read_eq_error_iff {failure : Failure} :
    read keywords environment = .error failure ↔
      issuesAll keywords (chosen? keywords environment) ≠ [] ∧
        failure = .invalid .settings (issuesAll keywords (chosen? keywords environment)) := by
  have hissues : (check keywords environment).issues =
      issuesAll keywords (chosen? keywords environment) := by
    rw [check, Checked.issues_alongside, issues_ofValues, issuesAll]
  have hreason : (check keywords environment).HasReason := (hasReason_ofValues _).alongside _
  rw [← hissues]
  unfold read
  cases hcheck : check keywords environment with
  | valid settings => simp [Checked.issues]
  | invalid issues =>
    rw [hcheck] at hreason
    have hnil : issues ≠ [] := (hreason.eq_invalid fun value h => by cases h).1
    simp only [Checked.issues, Except.error.injEq, ne_eq, hnil, not_false_eq_true, true_and]
    exact eq_comm

/-! ## Changes that nobody notices -/

/-- Whether a variable cannot count before others. -/
inductive IsHidden (keywords : Json.Members) (v : Text × Text) (later : Environment) : Prop
  /-- It names no field. -/
  | stranger : (∀ name ∈ fieldNames, ¬ IsVariableOf name v.1) → IsHidden keywords v later
  /-- There is a keyword for its field. -/
  | keyword {name : String} {k : Text × Json} :
    IsVariableOf name v.1 → k ∈ keywords → IsKeywordOf name k.1 → IsHidden keywords v later
  /-- A later variable has its name, up to case. -/
  | later {w : Text × Text} : w ∈ later → fold w.1 = fold v.1 → IsHidden keywords v later

/-- A change of an environment that makes no difference beside keywords. -/
inductive Unnoticed (keywords : Json.Members) : Environment → Environment → Prop
  /-- A hidden variable goes. -/
  | drop (before : Environment) {v : Text × Text} {later : Environment} :
    IsHidden keywords v later → Unnoticed keywords (before ++ v :: later) (before ++ later)
  /-- Two neighbours change places whose names differ in more than case. -/
  | swap (before : Environment) {v w : Text × Text} (later : Environment) :
    fold v.1 ≠ fold w.1 →
    Unnoticed keywords (before ++ v :: w :: later) (before ++ w :: v :: later)

/-- A variable has the name of one field at most. -/
theorem IsVariableOf.unique {other : String} {spelling : Text} (h : IsVariableOf name spelling)
    (h' : IsVariableOf other spelling) : name = other := by
  have happend : variableStem ++ name = variableStem ++ other :=
    Text.ofString_injective (h.symm.trans h')
  exact String.toList_inj.mp (by simpa using congrArg String.toList happend)

/-- A hidden variable may be left out. -/
theorem IsHidden.chosen?_eq {v : Text × Text} {later : Environment}
    (h : IsHidden keywords v later) (hname : name ∈ fieldNames) (before : Environment) :
    chosen? keywords (before ++ v :: later) name = chosen? keywords (before ++ later) name := by
  by_cases hv : IsVariableOf name v.1
  · cases h with
    | stranger hnot => exact absurd hv (hnot name hname)
    | keyword hof hmem hkeyword =>
      obtain rfl := hv.unique hof
      have hgiven : fromKeywords? keywords name ≠ none :=
        fun hnone => fromKeywords?_eq_none_iff.mp hnone _ hmem hkeyword
      obtain ⟨value, hvalue⟩ := Option.ne_none_iff_exists'.mp hgiven
      rw [chosen?, chosen?, hvalue, Option.some_or, Option.some_or]
    | later hmem hsame =>
      have hgiven : fromEnvironment? later name ≠ none :=
        fun hnone => fromEnvironment?_eq_none_iff.mp hnone _ hmem (hsame.trans hv)
      obtain ⟨value, hvalue⟩ := Option.ne_none_iff_exists'.mp hgiven
      rw [chosen?, chosen?, fromEnvironment?_append, fromEnvironment?_append, fromEnvironment?_cons,
        hvalue, Option.some_or]
  · rw [chosen?, chosen?, fromEnvironment?_append, fromEnvironment?_append, fromEnvironment?_cons,
      if_neg hv, Option.or_none]

/-- A change that nobody notices leaves the value that counts. -/
theorem Unnoticed.chosen?_eq {other : Environment} (h : Unnoticed keywords environment other)
    (hname : name ∈ fieldNames) : chosen? keywords environment name = chosen? keywords other name := by
  cases h with
  | drop before hhidden => exact hhidden.chosen?_eq hname before
  | @swap before v w later hdiffer =>
    have hnotBoth : ¬ (IsVariableOf name v.1 ∧ IsVariableOf name w.1) :=
      fun hboth => hdiffer (hboth.1.trans hboth.2.symm)
    have hswap : fromEnvironment? (v :: w :: later) name = fromEnvironment? (w :: v :: later) name := by
      simp only [fromEnvironment?_cons]
      by_cases hv : IsVariableOf name v.1
      · rw [if_neg (fun hw => hnotBoth ⟨hv, hw⟩), Option.or_none, Option.or_none]
      · rw [if_neg hv, Option.or_none, Option.or_none]
    rw [chosen?, chosen?, fromEnvironment?_append, fromEnvironment?_append, hswap]

/-- Nor do any number of such changes, there or back, change it. -/
theorem chosen?_eq_of_eqvGen {other : Environment}
    (h : Relation.EqvGen (Unnoticed keywords) environment other) (hname : name ∈ fieldNames) :
    chosen? keywords environment name = chosen? keywords other name := by
  induction h with
  | rel _ _ hstep => exact hstep.chosen?_eq hname
  | refl => rfl
  | symm _ _ _ ih => exact ih.symm
  | trans _ _ _ _ _ ih ih' => exact ih.trans ih'

/-- Settings are made of nothing but the values that count for fields. -/
theorem ofValues_congr {given given' : String → Option Json}
    (h : ∀ name ∈ fieldNames, given name = given' name) : ofValues given = ofValues given' := by
  simp only [fieldNames, List.forall_mem_cons, List.not_mem_nil, false_implies, implies_true,
    and_true] at h
  obtain ⟨hservice, hlevel, hvault, hnamespace, hmount, hrole, hvalidity, haccount, hproject, hsigner,
    htimeout⟩ := h
  simp only [ofValues, hservice, hlevel, hvault, hnamespace, hmount, hrole, hvalidity, haccount,
    hproject, hsigner, htimeout]

/-- Nor do they change the settings. -/
theorem read_eq_of_eqvGen {other : Environment}
    (h : Relation.EqvGen (Unnoticed keywords) environment other) :
    read keywords other = read keywords environment := by
  have hchosen : ∀ name ∈ fieldNames,
      chosen? keywords environment name = chosen? keywords other name :=
    fun _ hname => chosen?_eq_of_eqvGen h hname
  unfold read check
  rw [ofValues_congr hchosen]

/-- Whatever the keywords and the environment, one value counts for each field, or none: that of its
first keyword, or else of the last variable of its name, in any letter case, or else none. Settings are
made exactly if every keyword names a field and the values that count are read, and they are these
values as they are read, and the defaults. If not, the failure lists what is wrong with the values that
count, in the order of the fields, and then the keywords that name none. A change of variables that are
hidden or name no field, or of the order of variables of different names, is never noticed. -/
theorem read_counts (keywords : Json.Members) (environment : Environment) :
    ∃ given : String → Option Json,
      (∀ name found, Counts keywords environment name found ↔ given name = found) ∧
      (∀ settings, read keywords environment = .ok settings ↔
        (∀ k ∈ keywords, ∃ name ∈ fieldNames, IsKeywordOf name k.1) ∧ settings.IsReadFrom given) ∧
      (∀ failure, read keywords environment = .error failure ↔
        issuesAll keywords given ≠ [] ∧ failure = .invalid .settings (issuesAll keywords given)) ∧
      ∀ other, Relation.EqvGen (Unnoticed keywords) environment other →
        read keywords other = read keywords environment := by
  refine ⟨chosen? keywords environment, fun _ _ => chosen?_eq_iff.symm, fun _ => read_eq_ok_iff,
    fun _ => read_eq_error_iff, fun _ hchanged => read_eq_of_eqvGen hchanged⟩

/-- An environment with a validity that is no number, two roles, and a variable that names no field. -/
def crowded : Environment :=
  [("VAULT_GCP_JWT_VALIDITY_SECONDS", "soon"), ("VAULT_GCP_ROLE", "r"), ("PATH", "/bin"),
    ("vault_gcp_role", "")]

/-- A keyword for the validity. -/
def patient : Json.Members := [(Text.ofString "jwt_validity_seconds", .int 60)]

/-- Beside the keyword only the last role counts, though it is empty; without it the validity counts as
well, and is at fault. -/
theorem read_counts_crowded :
    read patient crowded = read patient [("vault_gcp_role", "")] ∧
      (∃ settings, read patient crowded = .ok settings ∧ settings.role = [] ∧
        settings.validitySeconds = 60) ∧
      read [] crowded = .error (.invalid .settings
        [⟨[Text.ofString "jwt_validity_seconds"], .unreadableInteger⟩]) := by
  have hvalidity : IsHidden patient ("VAULT_GCP_JWT_VALIDITY_SECONDS", "soon")
      [("VAULT_GCP_ROLE", "r"), ("PATH", "/bin"), ("vault_gcp_role", "")] :=
    .keyword (show IsVariableOf "jwt_validity_seconds" _ by decide +kernel)
      (List.mem_singleton_self _) (by decide +kernel)
  have hupper : IsVariableOf "role" "VAULT_GCP_ROLE" := by decide +kernel
  have hlower : IsVariableOf "role" "vault_gcp_role" := by decide +kernel
  have hrole : IsHidden patient ("VAULT_GCP_ROLE", "r") [("PATH", "/bin"), ("vault_gcp_role", "")] :=
    .later (List.mem_cons_of_mem _ (List.mem_singleton_self _)) (hlower.trans hupper.symm)
  have hstranger : IsHidden patient ("PATH", "/bin") [("vault_gcp_role", "")] :=
    .stranger (by decide +kernel)
  obtain ⟨-, -, -, -, hchange⟩ := read_counts patient crowded
  obtain ⟨given, hcounts, -, herror, -⟩ := read_counts [] crowded
  have hgiven : given = chosen? [] crowded :=
    funext fun name => (hcounts name _).mp (chosen?_eq_iff.mp rfl)
  subst hgiven
  have hread : (read patient crowded).toOption.map (fun s => (s.role, s.validitySeconds)) =
      some ([], 60) := by decide +kernel
  obtain ⟨settings, hsettings, hfields⟩ := toOption_map_eq_some.mp hread
  refine ⟨(hchange _ ?_).symm, ⟨settings, hsettings, congrArg Prod.fst hfields,
    congrArg Prod.snd hfields⟩, (herror _).mpr ⟨by decide +kernel, ?_⟩⟩
  · exact .trans _ _ _ (.rel _ _ (.drop [] hvalidity))
      (.trans _ _ _ (.rel _ _ (.drop [] hrole)) (.rel _ _ (.drop [] hstranger)))
  · have hissues : issuesAll [] (chosen? [] crowded) =
        [⟨[Text.ofString "jwt_validity_seconds"], .unreadableInteger⟩] := by decide +kernel
    rw [hissues]

end Settings

end IamLogin
