import IamLogin.Proofs.Url.Base
import Mathlib.Data.List.TakeWhile

/-!
# Who is named before a host

An authority names a user if it has an at sign, and the last one ends the name. So no host has one, and
a URL that names nobody still names nobody when it gets another path: the text of its authority is cut
again, and again nothing is cut off in front of the host.
-/

namespace IamLogin

/-- After the last separator there is none. -/
theorem not_mem_cutLast? (separator : Char) (cs : List Char) :
    separator ∉ ((cutLast? separator cs).getD ([], cs)).2 := by
  have htail : separator ∉ cs.reverse.takeWhile (· ≠ separator) := by
    intro hmem
    simpa using List.mem_takeWhile_imp hmem
  unfold cutLast?
  simp only [List.length_reverse]
  split
  · rw [Option.getD_some, List.mem_reverse]
    exact htail
  · case isFalse hlength =>
    -- nothing was left out, so the text is its own tail
    have hwhole : cs.reverse.takeWhile (· ≠ separator) = cs.reverse := by
      refine (List.takeWhile_prefix _).eq_of_length_le ?_
      rw [List.length_reverse]
      exact Nat.le_of_not_lt hlength
    rw [Option.getD_none, ← List.mem_reverse, ← hwhole]
    exact htail

/-- A text without the separator is not cut. -/
theorem cutLast?_of_not_mem {separator : Char} {cs : List Char} (h : separator ∉ cs) :
    cutLast? separator cs = none := by
  have hall : ∀ c ∈ cs.reverse, decide (c ≠ separator) = true := by
    intro c hc
    refine decide_eq_true ?_
    rintro rfl
    exact h (List.mem_reverse.mp hc)
  have htake : cs.reverse.takeWhile (· ≠ separator) = cs.reverse := by
    rw [← List.append_nil cs.reverse, List.takeWhile_append_of_pos hall, List.takeWhile_nil]
  simp only [cutLast?, htake, List.reverse_reverse, Nat.lt_irrefl, if_false]

/-- A text is cut at its last separator. -/
theorem cutLast?_append_cons {separator : Char} {after : List Char} (h : separator ∉ after)
    (before : List Char) :
    cutLast? separator (before ++ separator :: after) = some (before, after) := by
  have hall : ∀ c ∈ after.reverse, decide (c ≠ separator) = true := by
    intro c hc
    refine decide_eq_true ?_
    rintro rfl
    exact h (List.mem_reverse.mp hc)
  have htake : (before ++ separator :: after).reverse.takeWhile (· ≠ separator) = after.reverse := by
    rw [List.reverse_append, List.reverse_cons, List.append_assoc, List.takeWhile_append_of_pos hall,
      List.singleton_append, List.takeWhile_cons_of_neg (by simp), List.append_nil]
  have hlength : (before ++ separator :: after).length = before.length + after.length + 1 := by
    rw [List.length_append, List.length_cons, Nat.add_assoc]
  have hlt : after.length < before.length + after.length + 1 := by omega
  have hfront : before.length + after.length + 1 - after.length - 1 = before.length := by omega
  simp only [cutLast?, htake, List.reverse_reverse, hlength, hlt, if_true, hfront, List.take_left]

/-- What stands before the last separator stood in the text. -/
theorem mem_of_mem_cutLast? {separator c : Char} {cs before after : List Char}
    (hcut : cutLast? separator cs = some (before, after)) (h : c ∈ before) : c ∈ cs := by
  simp only [cutLast?] at hcut
  split at hcut
  · cases hcut
    exact List.mem_of_mem_take h
  · cases hcut

namespace Url

/-- No host that is cut from an authority has an at sign. -/
theorem not_mem_cutHost (authority : List Char) : '@' ∉ (cutHost authority).2.1 := by
  have hrest := not_mem_cutLast? '@' authority
  unfold cutHost
  generalize (cutLast? '@' authority).getD ([], authority) = cut at hrest
  obtain ⟨userinfo, rest⟩ := cut
  have hbracketed : ∀ inside after, cutLast? ']' rest = some (inside, after) →
      '@' ∉ inside ++ [']'] := by
    intro inside after hcut hmem
    rcases List.mem_append.mp hmem with hmem | hmem
    · exact hrest (mem_of_mem_cutLast? hcut hmem)
    · exact absurd (List.mem_singleton.mp hmem) (by decide)
  have hplain : '@' ∉ rest.takeWhile (· ≠ ':') :=
    fun hmem => hrest ((List.takeWhile_prefix _).subset hmem)
  -- the host may stand in brackets or not, and a port may follow or not
  simp only
  split <;> split
  · exact hbracketed _ _ ‹_›
  · exact hplain
  · exact hbracketed _ _ ‹_›
  · exact hplain

/-- An authority without an at sign names nobody. -/
theorem cutHost_of_not_mem {authority : List Char} (h : '@' ∉ authority) :
    (cutHost authority).1 = [] := by
  simp only [cutHost, cutLast?_of_not_mem h, Option.getD_none]
  split <;> rfl

/-- No host is sent with an at sign. -/
theorem not_mem_normalHost {host sent : List Char} (h : '@' ∉ host)
    (hsent : normalHost host = .ok sent) : '@' ∉ sent := by
  unfold normalHost at hsent
  split at hsent
  · cases hsent
    exact List.not_mem_nil
  · split at hsent
    · split at hsent
      · cases hsent
        exact h
      · cases hsent
    · split at hsent
      · simp only at hsent
        split at hsent
        · cases hsent
          intro hmem
          exact h (List.mem_of_mem_drop (List.dropLast_subset _ hmem))
        · cases hsent
      · cases hsent
        intro hmem
        rcases Percent.mem_encode hmem with ⟨-, hplain⟩ | heq | hhex
        · exact absurd hplain (by decide)
        · exact absurd heq (by decide)
        · exact absurd hhex (by decide)

/-- The host of a URL has no at sign, and its user is named in its authority. -/
theorem authority_of_ofPieces {p : Pieces} {url : Url} (h : ofPieces p = .ok url) :
    '@' ∉ url.host ∧ ('@' ∉ p.authority → url.userinfo = []) := by
  have hnot_mem := not_mem_cutHost p.authority
  have hnobody : '@' ∉ p.authority → (cutHost p.authority).1 = [] := cutHost_of_not_mem
  unfold ofPieces at h
  generalize cutHost p.authority = cut at h hnot_mem hnobody
  obtain ⟨userinfo, host, port⟩ := cut
  obtain ⟨sent, hsent, h⟩ := except_bind_eq_ok.mp h
  obtain ⟨_, _, h⟩ := except_bind_eq_ok.mp h
  obtain ⟨_, _, h⟩ := except_bind_eq_ok.mp h
  cases h
  refine ⟨not_mem_normalHost hnot_mem hsent, fun hnot => ?_⟩
  change Percent.encode Percent.inUserinfo userinfo = []
  have huserinfo : userinfo = [] := hnobody hnot
  rw [huserinfo, Percent.encode_nil]

/-- Neither host nor port is written with an at sign. -/
theorem not_mem_netloc {url : Url} (h : '@' ∉ url.host) : '@' ∉ url.netloc := by
  have hport : ∀ port, '@' ∉ Decimal.ofInt port := by
    intro port hmem
    exact absurd (Decimal.eq_minus_or_isDigit_of_mem_ofInt hmem) (by decide)
  unfold netloc
  rw [List.mem_append, not_or]
  constructor
  · split
    · simp [h]
    · exact h
  · split
    · exact List.not_mem_nil
    · exact List.not_mem_cons_of_ne_of_not_mem (by decide) (hport _)

/-- A URL that names nobody names nobody with another path. -/
theorem userinfo_withTarget {base url : Url} {target : List Char} (huserinfo : base.userinfo = [])
    (hhost : '@' ∉ base.host) (h : base.withTarget target = .ok url) : url.userinfo = [] := by
  refine (authority_of_ofPieces (ofPieces_of_rebuild h)).2 ?_
  change '@' ∉ base.authority
  rw [authority, huserinfo]
  exact not_mem_netloc hhost

/-- The host of a base has no at sign. -/
theorem not_mem_host_of_asBase {address : List Char} {base : Url} (h : asBase address = .ok base) :
    '@' ∉ base.host := by
  obtain ⟨url, hurl, h⟩ := except_bind_eq_ok.mp h
  split at h
  · cases h
    exact (authority_of_ofPieces (ofPieces_of_ofChars hurl)).1
  · exact (authority_of_ofPieces (ofPieces_of_rebuild h)).1

/-- A path under a base that names nobody is asked for without naming anybody. -/
theorem userinfo_under {address : List Char} {base : Url} (hbase : asBase address = .ok base)
    (huserinfo : base.userinfo = []) {c : Char} (hc : c ≠ '/') (rest : List Char) {url : Url}
    (h : under base ('/' :: c :: rest) = .ok url) : url.userinfo = [] := by
  obtain ⟨relative, hrelative, h⟩ := except_bind_eq_ok.mp h
  have hpieces := ofPieces_of_ofChars hrelative
  rw [pieces_of_path hc] at hpieces
  have habsolute : ¬ relative.isAbsolute = true := by simp [isAbsolute, (ofPieces_eq_ok hpieces).1]
  rw [if_neg habsolute] at h
  exact userinfo_withTarget huserinfo (not_mem_host_of_asBase hbase) h

end Url

/-- Nobody is identified by a URL that names nobody. -/
theorem Posting.basicAuthorization?_eq_none {url : Url} (h : url.userinfo = []) :
    basicAuthorization? url = none := by
  unfold basicAuthorization? Url.credentials
  rw [h]
  rfl

end IamLogin
