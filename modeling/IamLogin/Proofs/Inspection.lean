import IamLogin.Credential
import IamLogin.Proofs.Json.Notation
import IamLogin.Proofs.Text.Quoted
import IamLogin.Proofs.Url.Path
import IamLogin.Vault

/-!
# What is shown of credentials and tokens

A credential is shown without the token that it carries, and a token without its secret, but nothing else
is hidden. All that is shown can be read off the text again: texts in quotes tell where they end, whatever
stands in them, and a duration is shown by its parts, each under its own name and with all its digits. So
two credentials look the same exactly if they are for the same account, project and key, and two tokens
exactly if they are renewable alike and last equally long.
-/

namespace IamLogin

/-! ## Integers -/

namespace Decimal

/-- Different integers have different numerals. -/
theorem ofInt_injective {n m : Int} (h : ofInt n = ofInt m) : n = m := by
  have hvalue : ∀ {i j : Nat}, ofNat i = ofNat j → i = j := by
    intro i j hij
    rw [← value_ofNat i, ← value_ofNat j, hij]
  have hsign : ∀ (i : Nat) (ds : List Char), ofNat i ≠ '-' :: ds := by
    intro i ds hi
    have hdigit : isDigit '-' = true := isDigit_of_mem_ofNat (n := i) (by simp [hi])
    exact absurd hdigit (by decide)
  cases n with
  | ofNat i =>
    cases m with
    | ofNat j => rw [hvalue h]
    | negSucc j => exact absurd h (hsign i _)
  | negSucc i =>
    cases m with
    | ofNat j => exact absurd h.symm (hsign j _)
    | negSucc j =>
      have hij : i + 1 = j + 1 := hvalue (List.cons.inj h).2
      rw [Nat.succ.inj hij]

end Decimal

/-! ## Durations -/

namespace Json

/-- Parts without commas are told by their joining. -/
theorem intercalate_inj {part part' : List Char} {more more' : List (List Char)}
    (hcomma : ∀ p ∈ part :: more, ',' ∉ p) (hcomma' : ∀ p ∈ part' :: more', ',' ∉ p)
    (h : partSeparator.intercalate (part :: more) = partSeparator.intercalate (part' :: more')) :
    part :: more = part' :: more' := by
  -- Both sides are cut at the first comma, if there is one.
  have hcut : ∀ {p : List Char} {ps : List (List Char)}, ',' ∉ p →
      cutFirst ',' (partSeparator.intercalate (p :: ps)) =
        (p, if ps = [] then none else some (' ' :: partSeparator.intercalate ps)) := by
    intro p ps hp
    cases ps with
    | nil =>
      rw [List.intercalate_singleton, cutFirst_of_not_mem hp]
      rfl
    | cons q ps =>
      have hparts : partSeparator.intercalate (p :: q :: ps) =
          p ++ ',' :: ' ' :: partSeparator.intercalate (q :: ps) := by
        rw [List.intercalate_cons_cons, partSeparator, List.append_assoc]
        rfl
      rw [hparts, cutFirst_append_cons hp]
      rfl
  induction more generalizing part part' more' with
  | nil =>
    have hboth := congrArg (cutFirst ',') h
    rw [hcut (hcomma _ List.mem_cons_self), hcut (hcomma' _ List.mem_cons_self)] at hboth
    cases more' with
    | nil => rw [(Prod.mk.inj hboth).1]
    | cons q' more' => cases (Prod.mk.inj hboth).2
  | cons q more ih =>
    have hboth := congrArg (cutFirst ',') h
    rw [hcut (hcomma _ List.mem_cons_self), hcut (hcomma' _ List.mem_cons_self)] at hboth
    cases more' with
    | nil => cases (Prod.mk.inj hboth).2
    | cons q' more' =>
      obtain ⟨hpart, hrest⟩ := Prod.mk.inj hboth
      have hmore : q :: more = q' :: more' :=
        ih (fun p hp => hcomma p (List.mem_cons_of_mem _ hp))
          (fun p hp => hcomma' p (List.mem_cons_of_mem _ hp))
          (List.cons.inj (Option.some.inj hrest)).2
      rw [hpart, hmore]

end Json

namespace Duration

/-- A part of a duration as it is shown, if it is not zero. -/
def shownPart (name : List Char) (n : Int) : List (List Char) :=
  if n = 0 then [] else [name ++ '=' :: Decimal.ofInt n]

/-- The parts of a duration as they are shown. -/
def shownParts (d : Duration) : List (List Char) :=
  shownPart "days".toList d.days ++ shownPart "seconds".toList d.seconds ++
    shownPart "microseconds".toList d.microseconds

/-- What stands between the brackets: the parts, or a zero if there is none. -/
def shown (d : Duration) : List (List Char) :=
  if d.shownParts = [] then [['0']] else d.shownParts

/-- A duration is shown by its parts. -/
theorem toList_inspect (d : Duration) :
    d.inspect.toList = "datetime.timedelta(".toList ++
      Json.partSeparator.intercalate d.shown ++ [')'] := by
  have hpart : ∀ (name : String) (n : Int),
      (if n = 0 then [] else [name ++ "=" ++ Decimal.text n]).map String.toList =
        shownPart name.toList n := by
    intro name n
    unfold shownPart
    split
    · rfl
    · simp [Decimal.text]
  have hjoin : ∀ parts : List String,
      (if parts.isEmpty then "0" else ", ".intercalate parts).toList =
        Json.partSeparator.intercalate
          (if parts.map String.toList = [] then [['0']] else parts.map String.toList) := by
    intro parts
    cases parts with
    | nil => rfl
    | cons part more =>
      rw [if_neg (by simp), if_neg (by simp), String.toList_intercalate]
      rfl
  unfold inspect shown shownParts
  dsimp only
  rw [String.toList_append, String.toList_append, hjoin, List.map_append, List.map_append, hpart,
    hpart, hpart]
  rfl

/-- What is shown of a part begins with its name, and has no comma unless the name has one. -/
theorem of_mem_shownPart {name p : List Char} {n : Int} (h : p ∈ shownPart name n) :
    (∃ digits, p = name ++ '=' :: digits) ∧ (',' ∉ name → ',' ∉ p) := by
  unfold shownPart at h
  split at h
  · cases h
  · rw [List.mem_singleton.mp h]
    refine ⟨⟨_, rfl⟩, fun hname hmem => ?_⟩
    rcases List.mem_append.mp hmem with hmem | hmem
    · exact hname hmem
    · rcases List.mem_cons.mp hmem with heq | hmem
      · cases heq
      · exact absurd (Decimal.eq_minus_or_isDigit_of_mem_ofInt hmem) (by decide)

/-- A part is told by what is shown, before parts with other names. -/
theorem shownPart_append_inj {name : List Char} {n m : Int} {rest rest' : List (List Char)}
    (hrest : ∀ digits, name ++ '=' :: digits ∉ rest) (hrest' : ∀ digits, name ++ '=' :: digits ∉ rest')
    (h : shownPart name n ++ rest = shownPart name m ++ rest') : n = m ∧ rest = rest' := by
  unfold shownPart at h
  split at h
  · case isTrue hn =>
    split at h
    · case isTrue hm => exact ⟨hn.trans hm.symm, h⟩
    · subst h
      exact absurd List.mem_cons_self (hrest _)
  · split at h
    · subst h
      exact absurd List.mem_cons_self (hrest' _)
    · obtain ⟨hshown, htail⟩ := List.cons.inj h
      exact ⟨Decimal.ofInt_injective (List.cons.inj (List.append_cancel_left hshown)).2, htail⟩

/-- A duration is told by its parts. -/
theorem shownParts_injective {d d' : Duration} (h : d.shownParts = d'.shownParts) : d = d' := by
  -- The names begin with different letters, so that no part is found under the name of another one.
  have hother : ∀ {name other : List Char}, name.head? ≠ other.head? → name ≠ [] → other ≠ [] →
      ∀ (n : Int) (digits : List Char), name ++ '=' :: digits ∉ shownPart other n := by
    intro name other hhead hname hother n digits hmem
    obtain ⟨⟨digits', heq⟩, -⟩ := of_mem_shownPart hmem
    have hboth := congrArg List.head? heq
    rw [List.head?_append_of_ne_nil _ hname, List.head?_append_of_ne_nil _ hother] at hboth
    exact hhead hboth
  have hdays : ∀ (n m : Int) (digits : List Char), "days".toList ++ '=' :: digits ∉
      shownPart "seconds".toList n ++ shownPart "microseconds".toList m := by
    intro n m digits hmem
    rcases List.mem_append.mp hmem with hmem | hmem
    · exact hother (by decide) (by decide) (by decide) n digits hmem
    · exact hother (by decide) (by decide) (by decide) m digits hmem
  have hseconds : ∀ (n : Int) (digits : List Char), "seconds".toList ++ '=' :: digits ∉
      shownPart "microseconds".toList n := hother (by decide) (by decide) (by decide)
  unfold shownParts at h
  rw [List.append_assoc, List.append_assoc] at h
  obtain ⟨heqDays, hrest⟩ := shownPart_append_inj (hdays _ _) (hdays _ _) h
  obtain ⟨heqSeconds, hlast⟩ := shownPart_append_inj (hseconds _) (hseconds _) hrest
  rw [← List.append_nil (shownPart _ d.microseconds),
    ← List.append_nil (shownPart _ d'.microseconds)] at hlast
  obtain ⟨heqMicros, -⟩ :=
    shownPart_append_inj (fun _ => List.not_mem_nil) (fun _ => List.not_mem_nil) hlast
  rw [← ofParts_parts d, ← ofParts_parts d', heqDays, heqSeconds, heqMicros]

/-- What is shown of a duration is no bare number and has no comma in its parts. -/
theorem of_mem_shownParts {d : Duration} {p : List Char} (h : p ∈ d.shownParts) :
    p ≠ ['0'] ∧ ',' ∉ p := by
  have hpart : ∀ {name : List Char} {n : Int}, name.head? ≠ some '0' → name ≠ [] → ',' ∉ name →
      p ∈ shownPart name n → p ≠ ['0'] ∧ ',' ∉ p := by
    intro name n hzero hname hcomma hmem
    obtain ⟨⟨digits, rfl⟩, hnone⟩ := of_mem_shownPart hmem
    have hhead : (name ++ '=' :: digits).head? = name.head? :=
      List.head?_append_of_ne_nil name hname
    refine ⟨fun heq => hzero ?_, hnone hcomma⟩
    rw [← hhead, heq]
    rfl
  unfold shownParts at h
  rcases List.mem_append.mp h with h | h
  · rcases List.mem_append.mp h with h | h
    · exact hpart (by decide) (by decide) (by decide) h
    · exact hpart (by decide) (by decide) (by decide) h
  · exact hpart (by decide) (by decide) (by decide) h

/-- Something is shown of every duration. -/
theorem shown_ne_nil (d : Duration) : d.shown ≠ [] := by
  unfold shown
  split
  · exact List.cons_ne_nil _ _
  · assumption

/-- No part that is shown has a comma. -/
theorem not_mem_of_mem_shown {d : Duration} {p : List Char} (h : p ∈ d.shown) : ',' ∉ p := by
  unfold shown at h
  split at h
  · rw [List.mem_singleton.mp h]
    decide
  · exact (of_mem_shownParts h).2

/-- Parts are told by what stands between the brackets. -/
theorem shownParts_eq_of_shown {d d' : Duration} (h : d.shown = d'.shown) :
    d.shownParts = d'.shownParts := by
  have hzero : ∀ {e : Duration}, [['0']] ≠ e.shownParts := by
    intro e heq
    exact (of_mem_shownParts (d := e) (heq ▸ List.mem_singleton_self _)).1 rfl
  unfold shown at h
  split at h
  · case isTrue hnil =>
    split at h
    · case isTrue hnil' => rw [hnil, hnil']
    · exact absurd h hzero
  · split at h
    · exact absurd h.symm hzero
    · exact h

/-- A duration is told by what is shown of it. -/
theorem inspect_injective {d d' : Duration} (h : d.inspect = d'.inspect) : d = d' := by
  have hlists := congrArg String.toList h
  rw [toList_inspect, toList_inspect] at hlists
  have hshown := List.append_cancel_left (List.append_cancel_right hlists)
  obtain ⟨part, more, hparts⟩ := List.exists_cons_of_ne_nil d.shown_ne_nil
  obtain ⟨part', more', hparts'⟩ := List.exists_cons_of_ne_nil d'.shown_ne_nil
  refine shownParts_injective (shownParts_eq_of_shown ?_)
  rw [hparts, hparts'] at hshown ⊢
  exact Json.intercalate_inj (fun p hp => not_mem_of_mem_shown (hparts ▸ hp))
    (fun p hp => not_mem_of_mem_shown (hparts' ▸ hp)) hshown

end Duration

/-! ## Credentials and tokens -/

namespace Credential

/-- A credential is shown by its account, its project and its key, each in quotes. -/
theorem toList_inspect (c : Credential) :
    c.inspect.toList = "ServiceAccountCredential(client_email=".toList ++
      (Quoted.ofText c.clientEmail ++ (", project_id=".toList ++
        (Quoted.ofText c.projectId ++ (", private_key_id=".toList ++
          (Quoted.ofText? c.privateKeyId ++ ")".toList))))) := by
  have hinspect : c.inspect =
      "ServiceAccountCredential(client_email=" ++ String.ofList (Quoted.ofText c.clientEmail) ++
        ", project_id=" ++ String.ofList (Quoted.ofText c.projectId) ++
        ", private_key_id=" ++ String.ofList (Quoted.ofText? c.privateKeyId) ++ ")" := rfl
  simp only [hinspect, String.toList_append, String.toList_ofList, List.append_assoc]

/-- A credential is told by what is shown of it, but for its token. -/
theorem inspect_eq_iff {c c' : Credential} :
    c.inspect = c'.inspect ↔ c.clientEmail = c'.clientEmail ∧ c.projectId = c'.projectId ∧
      c.privateKeyId = c'.privateKeyId := by
  rw [← String.toList_inj, toList_inspect, toList_inspect]
  constructor
  · intro h
    obtain ⟨hemail, h⟩ := Quoted.ofText_append_inj (List.append_cancel_left h)
    obtain ⟨hproject, h⟩ := Quoted.ofText_append_inj (List.append_cancel_left h)
    obtain ⟨hkey, -⟩ := Quoted.ofText?_append_inj (List.append_cancel_left h)
    exact ⟨hemail, hproject, hkey⟩
  · rintro ⟨hemail, hproject, hkey⟩
    rw [hemail, hproject, hkey]

end Credential

namespace Token

/-- A token is shown by whether it is renewable and by its lease. -/
theorem toList_inspect (t : Token) :
    t.inspect.toList = "LoginToken(renewable=".toList ++
      ((if t.renewable then "True" else "False").toList ++ (", lease_duration=".toList ++
        (t.lease.inspect.toList ++ ")".toList))) := by
  have hinspect : t.inspect =
      "LoginToken(renewable=" ++ (if t.renewable then "True" else "False") ++
        ", lease_duration=" ++ t.lease.inspect ++ ")" := rfl
  simp only [hinspect, String.toList_append, List.append_assoc]

/-- A token is told by what is shown of it, but for its secret. -/
theorem inspect_eq_iff {t t' : Token} :
    t.inspect = t'.inspect ↔ t.renewable = t'.renewable ∧ t.lease = t'.lease := by
  have hwords : ∀ r r' : List Char, "True".toList ++ r ≠ "False".toList ++ r' :=
    fun r r' heq => absurd (List.cons.inj heq).1 (by decide)
  rw [← String.toList_inj, toList_inspect, toList_inspect]
  constructor
  · intro h
    have hafter := List.append_cancel_left h
    have hrenewable : t.renewable = t'.renewable := by
      cases hr : t.renewable <;> cases hr' : t'.renewable
      · rfl
      · rw [hr, hr'] at hafter
        exact absurd hafter.symm (hwords _ _)
      · rw [hr, hr'] at hafter
        exact absurd hafter (hwords _ _)
      · rfl
    rw [hrenewable] at hafter
    have hlease := List.append_cancel_left (List.append_cancel_left hafter)
    exact ⟨hrenewable,
      Duration.inspect_injective (String.toList_inj.mp (List.append_cancel_right hlease))⟩
  · rintro ⟨hrenewable, hlease⟩
    rw [hrenewable, hlease]

end Token

/-- Whatever texts and durations there are in two credentials or in two tokens: the credentials look the
same exactly if they are for the same account, project and key, and the tokens exactly if they are
renewable alike and last equally long. What is secret in them makes no difference. -/
theorem inspections_hide_secrets :
    (∀ c c' : Credential, c.inspect = c'.inspect ↔ c.clientEmail = c'.clientEmail ∧
      c.projectId = c'.projectId ∧ c.privateKeyId = c'.privateKeyId) ∧
    ∀ t t' : Token, t.inspect = t'.inspect ↔ t.renewable = t'.renewable ∧ t.lease = t'.lease :=
  ⟨fun _ _ => Credential.inspect_eq_iff, fun _ _ => Token.inspect_eq_iff⟩

end IamLogin
