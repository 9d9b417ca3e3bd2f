import IamLogin.Draft
import Mathlib.Data.List.DropRight
import Mathlib.Order.WellFounded

/-!
# What a draft remembers

A draft is written to in any order and any number of times, and built at any time. What comes of a
build is told by the history of writings alone: of each of the seven slots the last value written to it
counts, or its default. A credential at hand and the two ids have no slots of their own; they are written
as what is more general, a supplier and a way to an id, and an id counts as given once anything was
written to its slot. Four conditions on the last values decide whether options are built, and the first
that is not met is reported.
-/

namespace IamLogin

/-! ## Slashes at the ends -/

section

variable {α : Type}

/-- What is left of a list between items `c` at both ends that are as many as can be. -/
structure IsTrimmed (c : α) (whole middle : List α) : Prop where
  /-- The rest of the whole is `c` over and over. -/
  around : ∃ before after,
    whole = List.replicate before c ++ middle ++ List.replicate after c
  /-- The middle does not begin with `c`. -/
  front : middle.head? ≠ some c
  /-- The middle does not end with `c`. -/
  back : middle.getLast? ≠ some c

variable [DecidableEq α]

/-- Trimming leaves what is between the ends. -/
theorem isTrimmed_trimBoth (c : α) (cs : List α) :
    IsTrimmed c cs (trimBoth (· = c) cs) := by
  have hreplicate : ∀ ds : List α, (∀ d ∈ ds, decide (d = c) = true) →
      ds = List.replicate ds.length c :=
    fun ds hds => List.eq_replicate_iff.mpr ⟨rfl, fun d hd => of_decide_eq_true (hds d hd)⟩
  obtain ⟨rest, hrest⟩ : ∃ rest, rest = cs.dropWhile (· = c) := ⟨_, rfl⟩
  have hmiddle : trimBoth (· = c) cs = rest.rdropWhile (· = c) := by rw [hrest]; rfl
  rw [hmiddle]
  refine ⟨⟨(cs.takeWhile (· = c)).length, (rest.rtakeWhile (· = c)).length, ?_⟩, ?_, ?_⟩
  · calc cs = cs.takeWhile (· = c) ++ rest := by rw [hrest, List.takeWhile_append_dropWhile]
      _ = cs.takeWhile (· = c) ++ rest.rdropWhile (· = c) ++ rest.rtakeWhile (· = c) := by
        rw [List.append_assoc, List.rdropWhile_append_rtakeWhile]
      _ = _ := by
        rw [← hreplicate _ fun d => List.mem_takeWhile_imp (p := fun d => decide (d = c)),
          ← hreplicate _ fun d => List.mem_rtakeWhile_imp (p := fun d => decide (d = c))]
  · intro hhead
    have hfirst : rest.head? = some c := by
      obtain ⟨more, hmore⟩ := List.rdropWhile_prefix (fun d => decide (d = c)) (l := rest)
      rw [← hmore, List.head?_append, hhead]
      rfl
    have hnot := List.head?_dropWhile_not (fun d => decide (d = c)) cs
    rw [← hrest, hfirst] at hnot
    simp at hnot
  · intro hlast
    have hne : rest.rdropWhile (· = c) ≠ [] := by
      intro hnil
      rw [hnil] at hlast
      cases hlast
    have hnot := List.rdropWhile_last_not (fun d => decide (d = c)) rest hne
    rw [List.getLast?_eq_some_getLast hne, Option.some.injEq] at hlast
    simp [hlast] at hnot

/-- There is one middle. -/
theorem IsTrimmed.trimBoth_eq {c : α} {whole middle : List α}
    (h : IsTrimmed c whole middle) : trimBoth (· = c) whole = middle := by
  obtain ⟨⟨before, after, rfl⟩, hfront, hback⟩ := h
  have hall : ∀ n, ∀ d ∈ List.replicate n c, decide (d = c) = true := by
    intro n d hd
    exact decide_eq_true (List.eq_of_mem_replicate hd)
  refine trimBoth_append_append (hall before) (hall after) ?_ ?_
  · intro d hd
    exact decide_eq_false fun hdc => hfront (hdc ▸ hd)
  · intro d hd
    exact decide_eq_false fun hdc => hback (hdc ▸ hd)

/-- Nothing is left of a list that is all ends. -/
theorem trimBoth_eq_nil_iff (c : α) (cs : List α) :
    trimBoth (· = c) cs = [] ↔ ∀ d ∈ cs, d = c := by
  obtain ⟨⟨before, after, hwhole⟩, hfront, -⟩ := isTrimmed_trimBoth c cs
  constructor
  · intro hnil d hd
    rw [hnil, List.append_nil] at hwhole
    rw [hwhole, List.mem_append] at hd
    rcases hd with hd | hd <;> exact List.eq_of_mem_replicate hd
  · intro hall
    cases hmiddle : trimBoth (· = c) cs with
    | nil => rfl
    | cons d rest =>
      have hd : d ∈ cs := by
        rw [hwhole, hmiddle]
        simp
      rw [hmiddle, List.head?_cons, hall d hd] at hfront
      exact absurd rfl hfront

end

namespace Draft

/-! ## Slots -/

/-- A slot of a draft. -/
structure Slot (β : Type) where
  /-- What stands in the slot. -/
  held : Draft → β
  /-- What a change writes to the slot. -/
  written : Change → Option β
  /-- A change leaves in the slot what it writes there, or what stood there. -/
  held_apply : ∀ d change, held (d.apply change) = (written change).getD (held d)

namespace Slot

variable {β : Type}

/-- The role. -/
def role : Slot (Option Text) where
  held := Draft.role
  written
    | .role role => some role
    | _ => none
  held_apply d change := by cases change <;> rfl

/-- The mount path. -/
def mountPath : Slot (Option Text) where
  held := Draft.mountPath
  written
    | .mountPath path => some path
    | _ => none
  held_apply d change := by cases change <;> rfl

/-- The validity. -/
def validity : Slot Duration where
  held := Draft.validity
  written
    | .validity validity => some validity
    | _ => none
  held_apply d change := by cases change <;> rfl

/-- The supplier. A credential at hand is written as a supplier that has it. -/
def supplier : Slot (Option Supplier) where
  held := Draft.supplier
  written
    | .credential credential => some (some (.fixed credential))
    | .supplier supplier => some supplier
    | _ => none
  held_apply d change := by cases change <;> rfl

/-- The way to the service account id. The id itself is written as a way that leads to it. -/
def account : Slot (Option Accessor) where
  held := Draft.account
  written
    | .accountId id => some (some (.constant id))
    | .account accessor => some (some accessor)
    | _ => none
  held_apply d change := by cases change <;> rfl

/-- The way to the project id. The id itself is written as a way that leads to it. -/
def project : Slot (Option Accessor) where
  held := Draft.project
  written
    | .projectId id => some (some (.constant id))
    | .project accessor => some (some accessor)
    | _ => none
  held_apply d change := by cases change <;> rfl

/-- The clock. -/
def clock : Slot Clock where
  held := Draft.clock
  written
    | .clock clock => some clock
    | _ => none
  held_apply d change := by cases change <;> rfl

/-- The last value that a history writes to a slot, or the default. -/
def last (slot : Slot β) (history : List Change) : β :=
  (history.filterMap slot.written).getLast?.getD (slot.held {})

/-- Whether a history writes anything to a slot. -/
def IsWritten (slot : Slot β) (history : List Change) : Prop :=
  ∃ change ∈ history, (slot.written change).isSome = true

/-- After any history, the last value written to a slot stands in it, or what stood there before. -/
theorem held_applyAll (slot : Slot β) (d : Draft) (history : List Change) :
    slot.held (d.applyAll history) =
      (history.filterMap slot.written).getLast?.getD (slot.held d) := by
  induction history generalizing d with
  | nil => rfl
  | cons change rest ih =>
    change slot.held ((d.apply change).applyAll rest) = _
    rw [ih, slot.held_apply]
    cases hwritten : slot.written change with
    | none => rw [List.filterMap_cons_none hwritten, Option.getD_none]
    | some value =>
      rw [List.filterMap_cons_some hwritten, List.getLast?_cons, Option.getD_some,
        Option.getD_some]

/-- In a new draft a slot holds the last value after any history. -/
theorem held_eq_last (slot : Slot β) (history : List Change) :
    slot.held (applyAll {} history) = slot.last history :=
  slot.held_applyAll {} history

/-- A slot that holds nothing at first, and to which nothing is never written, holds something
exactly if it was written to. -/
theorem isSome_last_iff {slot : Slot (Option β)} (hdefault : slot.held {} = none)
    (hwritten : ∀ change, slot.written change ≠ some none) (history : List Change) :
    (slot.last history).isSome = true ↔ slot.IsWritten history := by
  unfold last IsWritten
  cases hlast : (history.filterMap slot.written).getLast? with
  | none =>
    rw [Option.getD_none, hdefault]
    rw [List.getLast?_eq_none_iff, List.filterMap_eq_nil_iff] at hlast
    constructor
    · intro hsome
      cases hsome
    · rintro ⟨change, hmem, hsome⟩
      rw [hlast change hmem] at hsome
      cases hsome
  | some value =>
    rw [Option.getD_some]
    obtain ⟨change, hmem, hvalue⟩ := List.mem_filterMap.mp (List.mem_of_getLast? hlast)
    constructor
    · intro _
      exact ⟨change, hmem, by rw [hvalue]; rfl⟩
    · intro _
      cases value with
      | none => exact absurd hvalue (hwritten change)
      | some value => rfl

/-- There is a way to the account exactly if something was written to its slot. -/
theorem isSome_account_iff (history : List Change) :
    (account.last history).isSome = true ↔ account.IsWritten history :=
  isSome_last_iff rfl (by intro change; cases change <;> simp [account]) history

/-- So it is for the project. -/
theorem isSome_project_iff (history : List Change) :
    (project.last history).isSome = true ↔ project.IsWritten history :=
  isSome_last_iff rfl (by intro change; cases change <;> simp [project]) history

end Slot

/-- A draft is told by the last values of its slots. -/
theorem applyAll_eq (history : List Change) :
    applyAll {} history =
      { role := Slot.role.last history
        mountPath := Slot.mountPath.last history
        validity := Slot.validity.last history
        supplier := Slot.supplier.last history
        account := Slot.account.last history
        project := Slot.project.last history
        clock := Slot.clock.last history } := by
  rw [← Slot.held_eq_last, ← Slot.held_eq_last, ← Slot.held_eq_last, ← Slot.held_eq_last,
    ← Slot.held_eq_last, ← Slot.held_eq_last, ← Slot.held_eq_last]
  rfl

/-- Whether the last values that two histories write are the same, slot by slot. -/
structure SameLast (history other : List Change) : Prop where
  /-- The role. -/
  role : Slot.role.last history = Slot.role.last other
  /-- The mount path. -/
  mountPath : Slot.mountPath.last history = Slot.mountPath.last other
  /-- The validity. -/
  validity : Slot.validity.last history = Slot.validity.last other
  /-- The supplier. -/
  supplier : Slot.supplier.last history = Slot.supplier.last other
  /-- The way to the service account id. -/
  account : Slot.account.last history = Slot.account.last other
  /-- The way to the project id. -/
  project : Slot.project.last history = Slot.project.last other
  /-- The clock. -/
  clock : Slot.clock.last history = Slot.clock.last other

/-- Histories with the same last values make the same draft. -/
theorem SameLast.applyAll_eq {history other : List Change} (h : SameLast history other) :
    applyAll {} history = applyAll {} other := by
  rw [Draft.applyAll_eq, Draft.applyAll_eq, h.role, h.mountPath, h.validity, h.supplier, h.account,
    h.project, h.clock]

/-! ## Conditions -/

/-- What options have to fulfil. -/
inductive Condition where
  /-- There is a role. -/
  | role
  /-- It is known for which account and project to log in. -/
  | identity
  /-- A claim does not expire as soon as it is issued. -/
  | validity
  /-- There is a mount path. -/
  | mountPath
deriving DecidableEq, Repr

namespace Condition

/-- The place of a condition in the order in which they are checked. -/
def place : Condition → Nat
  | role => 0
  | identity => 1
  | validity => 2
  | mountPath => 3

/-- What is reported of a condition that is not met. -/
def failure : Condition → Failure
  | role => .blankRole
  | identity => .noIdentity
  | validity => .shortValidity
  | mountPath => .emptyMount

/-- Whether the last values of a history meet a condition: the role has a symbol that is not
blank; there is a supplier, or both ids were given; the validity is a second at least; the mount path
has a character that is no slash. -/
def Met (history : List Change) : Condition → Prop
  | role => ∃ text, Slot.role.last history = some text ∧ ∃ s ∈ text, s.isBlank = false
  | identity => Slot.supplier.last history ≠ none ∨
      (Slot.account.IsWritten history ∧ Slot.project.IsWritten history)
  | validity => 1000000 ≤ (Slot.validity.last history).micros
  | mountPath => ∃ text, Slot.mountPath.last history = some text ∧ ∃ s ∈ text, s ≠ .char '/'

/-- Whether a condition is the first in order that is not met. -/
def IsFirstUnmet (history : List Change) (condition : Condition) : Prop :=
  ¬ condition.Met history ∧
    ∀ earlier : Condition, earlier.place < condition.place → earlier.Met history

/-- There is one first condition that is not met. -/
theorem IsFirstUnmet.eq {history : List Change} {condition other : Condition}
    (h : condition.IsFirstUnmet history) (h' : other.IsFirstUnmet history) : condition = other := by
  have hplace : condition.place = other.place := by
    rcases Nat.lt_trichotomy condition.place other.place with hlt | heq | hlt
    · exact absurd (h'.2 condition hlt) h.1
    · exact heq
    · exact absurd (h.2 other hlt) h'.1
  cases condition <;> cases other <;> first | rfl | cases hplace

/-- Either all conditions are met, or one is the first that is not. -/
theorem met_or_isFirstUnmet (history : List Change) :
    (∀ condition : Condition, condition.Met history) ∨
      ∃ condition : Condition, condition.IsFirstUnmet history := by
  by_cases hall : ∀ condition : Condition, condition.Met history
  · exact .inl hall
  · obtain ⟨unmet, hunmet⟩ := not_forall.mp hall
    obtain ⟨first, hfirst, hleast⟩ :=
      (measure place).wf.has_min {condition | ¬ condition.Met history} ⟨unmet, hunmet⟩
    refine .inr ⟨first, hfirst, fun earlier hlt => ?_⟩
    by_contra hearlier
    exact hleast earlier hearlier hlt

/-- The condition on the role is checked on its last value. -/
theorem met_role_iff (history : List Change) :
    role.Met history ↔ ¬ ((Slot.role.last history).getD []).allBlank = true := by
  unfold Met Text.allBlank
  cases Slot.role.last history with
  | none => simp
  | some text =>
    simp only [Option.some.injEq, exists_eq_left', Option.getD_some, Bool.not_eq_true,
      List.all_eq_false]

/-- The condition on who logs in is checked on the last supplier and ids. -/
theorem met_identity_iff (history : List Change) :
    identity.Met history ↔ ¬ ((Slot.supplier.last history).isNone &&
      !((Slot.account.last history).isSome && (Slot.project.last history).isSome)) = true := by
  unfold Met
  rw [← Slot.isSome_account_iff, ← Slot.isSome_project_iff]
  cases Slot.supplier.last history <;> cases Slot.account.last history <;>
    cases Slot.project.last history <;> simp

/-- The condition on the validity is checked on its last value. -/
theorem met_validity_iff (history : List Change) :
    validity.Met history ↔ ¬ (Slot.validity.last history).micros < leastValidity.micros := by
  have hleast : leastValidity.micros = 1000000 := rfl
  rw [hleast, Int.not_lt]
  rfl

/-- The condition on the mount path is checked on its last value without the slashes at its ends. -/
theorem met_mountPath_iff (history : List Change) :
    mountPath.Met history ↔
      ¬ (stripSlashes ((Slot.mountPath.last history).getD [])).isEmpty = true := by
  have hempty : ∀ text : Text,
      ¬ (stripSlashes text).isEmpty = true ↔ ∃ s ∈ text, s ≠ .char '/' := by
    intro text
    rw [List.isEmpty_iff, stripSlashes, trimBoth_eq_nil_iff]
    simp only [not_forall, exists_prop, ne_eq]
  rw [hempty]
  unfold Met
  cases Slot.mountPath.last history with
  | none => simp
  | some text => simp only [Option.some.injEq, exists_eq_left', Option.getD_some]

end Condition

/-! ## Builds -/

/-- Whether options hold the last values of a history, with the slashes at both ends of the mount path
left out. -/
structure Carries (history : List Change) (o : Options) : Prop where
  /-- The role. -/
  role : Slot.role.last history = some o.role
  /-- The mount path. -/
  mountPath : ∃ text, Slot.mountPath.last history = some text ∧
    IsTrimmed (.char '/') text o.mountPath
  /-- The validity. -/
  validity : Slot.validity.last history = o.validity
  /-- The supplier. -/
  supplier : Slot.supplier.last history = o.supplier
  /-- The way to the service account id. -/
  account : Slot.account.last history = o.account
  /-- The way to the project id. -/
  project : Slot.project.last history = o.project
  /-- The clock. -/
  clock : Slot.clock.last history = o.clock

/-- The options that hold the last values of a history are told by the history. -/
theorem Carries.eq {history : List Change} {o o' : Options} (h : Carries history o)
    (h' : Carries history o') : o = o' := by
  obtain ⟨hrole, ⟨text, htext, hmount⟩, hvalidity, hsupplier, haccount, hproject, hclock⟩ := h
  obtain ⟨hrole', ⟨text', htext', hmount'⟩, hvalidity', hsupplier', haccount', hproject', hclock'⟩ :=
    h'
  have hsame : o.role = o'.role := Option.some.inj (hrole.symm.trans hrole')
  obtain rfl : text = text' := Option.some.inj (htext.symm.trans htext')
  have hpath : o.mountPath = o'.mountPath :=
    hmount.trimBoth_eq.symm.trans hmount'.trimBoth_eq
  cases o
  cases o'
  simp only [Options.mk.injEq] at *
  exact ⟨hsame, hsupplier.symm.trans hsupplier', hpath, hvalidity.symm.trans hvalidity',
    haccount.symm.trans haccount', hproject.symm.trans hproject', hclock.symm.trans hclock'⟩

/-- A build after a history, with its checks on the last values. -/
theorem build_eq (history : List Change) :
    (applyAll {} history).build =
      if ((Slot.role.last history).getD []).allBlank = true then .error .blankRole
      else if ((Slot.supplier.last history).isNone &&
          !((Slot.account.last history).isSome && (Slot.project.last history).isSome)) = true then
        .error .noIdentity
      else if (Slot.validity.last history).micros < leastValidity.micros then .error .shortValidity
      else if (stripSlashes ((Slot.mountPath.last history).getD [])).isEmpty = true then
        .error .emptyMount
      else .ok {
        role := (Slot.role.last history).getD []
        mountPath := stripSlashes ((Slot.mountPath.last history).getD [])
        supplier := Slot.supplier.last history
        validity := Slot.validity.last history
        account := Slot.account.last history
        project := Slot.project.last history
        clock := Slot.clock.last history } := by
  rw [applyAll_eq]
  rfl

/-- A build reports the first condition that is not met. -/
theorem build_of_isFirstUnmet {history : List Change} {condition : Condition}
    (h : condition.IsFirstUnmet history) :
    (applyAll {} history).build = .error condition.failure := by
  obtain ⟨hunmet, hearlier⟩ := h
  rw [build_eq]
  cases condition with
  | role =>
    rw [if_pos (not_not.mp (mt (Condition.met_role_iff history).mpr hunmet))]
    rfl
  | identity =>
    rw [if_neg ((Condition.met_role_iff history).mp (hearlier .role (by decide))),
      if_pos (not_not.mp (mt (Condition.met_identity_iff history).mpr hunmet))]
    rfl
  | validity =>
    rw [if_neg ((Condition.met_role_iff history).mp (hearlier .role (by decide))),
      if_neg ((Condition.met_identity_iff history).mp (hearlier .identity (by decide))),
      if_pos (not_not.mp (mt (Condition.met_validity_iff history).mpr hunmet))]
    rfl
  | mountPath =>
    rw [if_neg ((Condition.met_role_iff history).mp (hearlier .role (by decide))),
      if_neg ((Condition.met_identity_iff history).mp (hearlier .identity (by decide))),
      if_neg ((Condition.met_validity_iff history).mp (hearlier .validity (by decide))),
      if_pos (not_not.mp (mt (Condition.met_mountPath_iff history).mpr hunmet))]
    rfl

/-- A build whose conditions are all met gives options with the last values. -/
theorem build_of_met {history : List Change} (h : ∀ condition : Condition, condition.Met history) :
    ∃ o, (applyAll {} history).build = .ok o ∧ Carries history o := by
  obtain ⟨role, hrole, -⟩ := h .role
  obtain ⟨path, hpath, -⟩ := h .mountPath
  rw [build_eq, if_neg ((Condition.met_role_iff history).mp (h .role)),
    if_neg ((Condition.met_identity_iff history).mp (h .identity)),
    if_neg ((Condition.met_validity_iff history).mp (h .validity)),
    if_neg ((Condition.met_mountPath_iff history).mp (h .mountPath))]
  refine ⟨_, rfl, ?_⟩
  exact
    { role := by rw [hrole, Option.getD_some]
      mountPath := by
        refine ⟨path, hpath, ?_⟩
        rw [hpath, Option.getD_some]
        exact isTrimmed_trimBoth _ path
      validity := rfl
      supplier := rfl
      account := rfl
      project := rfl
      clock := rfl }

/-- What a build after a history gives is options with the last values if all conditions are met, and
else the report of the first that is not. -/
theorem build_iff (history : List Change) :
    (∀ o, (applyAll {} history).build = .ok o ↔
      (∀ condition : Condition, condition.Met history) ∧ Carries history o) ∧
    ∀ failure, (applyAll {} history).build = .error failure ↔
      ∃ condition : Condition, condition.IsFirstUnmet history ∧ failure = condition.failure := by
  rcases Condition.met_or_isFirstUnmet history with hmet | ⟨condition, hunmet⟩
  · obtain ⟨built, hbuild, hcarries⟩ := build_of_met hmet
    rw [hbuild]
    refine ⟨fun o => ⟨?_, ?_⟩, fun failure => ⟨?_, ?_⟩⟩
    · rintro heq
      cases heq
      exact ⟨hmet, hcarries⟩
    · rintro ⟨-, ho⟩
      rw [hcarries.eq ho]
    · intro heq
      cases heq
    · rintro ⟨condition, hunmet, -⟩
      exact absurd (hmet condition) hunmet.1
  · rw [build_of_isFirstUnmet hunmet]
    refine ⟨fun o => ⟨?_, ?_⟩, fun failure => ⟨?_, ?_⟩⟩
    · intro heq
      cases heq
    · rintro ⟨hmet, -⟩
      exact absurd (hmet condition) hunmet.1
    · intro heq
      cases heq
      exact ⟨condition, hunmet, rfl⟩
    · rintro ⟨other, hother, rfl⟩
      rw [hunmet.eq hother]

/-- What is done with a draft. -/
inductive Step where
  /-- It is written to. -/
  | write (change : Change)
  /-- Options are built from it. -/
  | build

/-- The changes among steps. -/
def changes (steps : List Step) : List Change :=
  steps.filterMap fun
    | .write change => some change
    | .build => none

/-- What the builds among steps give, beginning with a draft. -/
def outcomes (d : Draft) : List Step → List (Except Failure Options)
  | [] => []
  | .write change :: rest => outcomes (d.apply change) rest
  | .build :: rest => d.build :: outcomes d rest

/-- Steps go on with the draft that the steps before them made, whatever was built from it. -/
theorem outcomes_append (d : Draft) (before later : List Step) :
    d.outcomes (before ++ later) =
      d.outcomes before ++ (d.applyAll (changes before)).outcomes later := by
  induction before generalizing d with
  | nil => rfl
  | cons step rest ih =>
    cases step with
    | write change => exact ih (d.apply change)
    | build =>
      simp only [List.cons_append, outcomes, List.cons.injEq, true_and]
      exact ih d

/-- Whatever was written before and whatever was built in between, a build gives what the last values
written to the slots give, and nothing later changes what was built. -/
theorem outcomes_build (before later : List Step) :
    ∃ outcome,
      outcomes {} (before ++ .build :: later) =
        outcomes {} before ++ outcome :: (applyAll {} (changes before)).outcomes later ∧
      (∀ o, outcome = .ok o ↔
        (∀ condition : Condition, condition.Met (changes before)) ∧ Carries (changes before) o) ∧
      (∀ failure, outcome = .error failure ↔ ∃ condition : Condition,
        condition.IsFirstUnmet (changes before) ∧ failure = condition.failure ∧
          failure.kind = .configuration ∧ failure.cause? = none) ∧
      ∀ other, SameLast (changes before) (changes other) →
        ∃ earlier, outcomes {} (other ++ [.build]) = earlier ++ [outcome] := by
  obtain ⟨hok, herror⟩ := build_iff (changes before)
  refine ⟨(applyAll {} (changes before)).build, outcomes_append {} before _, hok, ?_, ?_⟩
  · intro failure
    rw [herror]
    refine exists_congr fun condition => and_congr_right fun _ => ⟨?_, fun h => h.1⟩
    rintro rfl
    cases condition <;> exact ⟨rfl, rfl, rfl⟩
  · intro other hsame
    rw [hsame.applyAll_eq]
    exact ⟨_, outcomes_append {} other [.build]⟩

/-- A role, a build in vain, a mount path among slashes, and both ids, one of which is nothing. -/
def twice : List Step := [.write (.role (some (Text.ofString "role"))), .build,
  .write (.mountPath (some (Text.ofString "//a/b/"))),
  .write (.accountId (some (Text.ofString "account"))), .write (.projectId none)]

/-- The build in vain leaves no trace, and what was written before it still counts after it. -/
theorem outcomes_build_twice :
    outcomes {} (twice ++ [.build]) =
      [.error .noIdentity, .ok {
        role := Text.ofString "role", supplier := none, mountPath := Text.ofString "a/b"
        validity := defaultValidity
        account := some (.constant (some (Text.ofString "account")))
        project := some (.constant none)
        clock := .system }] := by
  obtain ⟨outcome, hsteps, hok, -⟩ := outcomes_build twice []
  rw [hsteps, (hok _).mpr ⟨?_, ?_⟩]
  · rfl
  · intro condition
    cases condition with
    | role => exact ⟨Text.ofString "role", rfl, .char 'r', by decide, by decide⟩
    | identity => exact .inr ⟨⟨.accountId (some (Text.ofString "account")), by simp [changes, twice], rfl⟩,
        ⟨.projectId none, by simp [changes, twice], rfl⟩⟩
    | validity => exact show (1000000 : Int) ≤ defaultValidity.micros by decide
    | mountPath => exact ⟨Text.ofString "//a/b/", rfl, .char 'a', by decide, by decide⟩
  · exact
      { role := rfl
        mountPath := ⟨Text.ofString "//a/b/", rfl, ⟨2, 1, by decide⟩, by decide, by decide⟩
        validity := rfl
        supplier := rfl
        account := rfl
        project := rfl
        clock := rfl }

end Draft

end IamLogin
