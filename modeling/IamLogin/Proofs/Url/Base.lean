import IamLogin.Proofs.Action
import IamLogin.Proofs.Url.Path

/-!
# Paths under an origin

An origin is an address of a scheme and an authority with nothing after them but slashes. It becomes a
base with an empty path and no query, so the path of a request that is made under it is the path that
was asked for, escaped and resolved, and its query is what followed the first question mark.
-/

namespace IamLogin.Url

/-- An address of a scheme and an authority. -/
inductive IsOrigin : List Char → Prop
  /-- A scheme begins with a letter, and an authority ends where a path, a query or a fragment would
  begin. -/
  | intro {letter : Char} {scheme authority : List Char} (slashes : Nat) :
    letter.isAlpha = true →
    (∀ c ∈ scheme, inScheme c = true) →
    authority ≠ [] →
    '/' ∉ authority → '?' ∉ authority → '#' ∉ authority →
    IsOrigin (letter :: scheme ++ "://".toList ++ authority ++ List.replicate slashes '/')

/-! ## Reading -/

/-- A text is a URL only if its pieces are. -/
theorem ofPieces_of_ofChars {cs : List Char} {url : Url} (h : ofChars cs = .ok url) :
    ofPieces (Pieces.ofChars cs) = .ok url := by
  unfold ofChars at h
  split at h
  · cases h
  · exact h

/-- Pieces that are checked again make a URL only if they make one without the check. -/
theorem ofPieces_of_rebuild {p : Pieces} {url : Url} (h : rebuild p = .ok url) :
    ofPieces p = .ok url := by
  unfold rebuild at h
  split at h
  · cases h
  · exact h

/-- What becomes of the pieces of a URL, but for those of the authority. -/
theorem ofPieces_eq_ok {p : Pieces} {url : Url} (h : ofPieces p = .ok url) :
    url.scheme = p.scheme.map Char.toLower ∧
      url.query = p.query.map (Percent.encode Percent.inQuery) ∧
      (p.scheme ≠ [] → url.path = Percent.encode Percent.inPath (normalPath p.path)) ∧
      (p.scheme = [] → p.authority = [] → url.path = Percent.encode Percent.inPath p.path) := by
  unfold ofPieces at h
  obtain ⟨host, hhost, h⟩ := except_bind_eq_ok.mp h
  obtain ⟨port, hport, h⟩ := except_bind_eq_ok.mp h
  obtain ⟨_, _, h⟩ := except_bind_eq_ok.mp h
  cases h
  refine ⟨rfl, rfl, fun hscheme => ?_, fun hscheme hauthority => ?_⟩
  · obtain ⟨c, rest, hcons⟩ := List.exists_cons_of_ne_nil hscheme
    simp [hcons]
  · -- without an authority there is neither a host nor a port
    rw [hauthority] at hhost hport
    cases hhost
    cases hport
    simp [hscheme, hauthority, cutLast?]

/-- The scheme of a text that begins with one. -/
theorem cutScheme_cons {letter : Char} {scheme : List Char} (hletter : letter.isAlpha = true)
    (hscheme : ∀ c ∈ scheme, inScheme c = true) (rest : List Char) :
    cutScheme (letter :: scheme ++ ':' :: rest) = (letter :: scheme, rest) := by
  have hall : ∀ c ∈ letter :: scheme, inScheme c = true := by
    intro c hc
    rcases List.mem_cons.mp hc with rfl | hc
    · simp [inScheme, Char.isAlphanum, hletter]
    · exact hscheme c hc
  have hfront : (letter :: scheme ++ ':' :: rest).takeWhile inScheme = letter :: scheme := by
    rw [List.takeWhile_append_of_pos hall, List.takeWhile_cons_of_neg (by decide), List.append_nil]
  have hrest : (letter :: scheme ++ ':' :: rest).drop (letter :: scheme).length = ':' :: rest :=
    List.drop_left
  simp only [cutScheme, hfront, hrest, hletter, if_true]

/-- The pieces of an origin. -/
theorem pieces_of_origin {letter : Char} {scheme authority : List Char}
    (hletter : letter.isAlpha = true) (hscheme : ∀ c ∈ scheme, inScheme c = true)
    (hslash : '/' ∉ authority) (hquery : '?' ∉ authority) (hfragment : '#' ∉ authority) :
    Pieces.ofChars (letter :: scheme ++ "://".toList ++ authority) =
      { scheme := letter :: scheme, authority, path := [], query := none, fragment := none } := by
  have hinside : ∀ c ∈ authority, decide (c ≠ '/' ∧ c ≠ '?' ∧ c ≠ '#') = true := by
    intro c hc
    refine decide_eq_true ⟨?_, ?_, ?_⟩ <;> rintro rfl <;> contradiction
  have htake : authority.takeWhile (fun c => c ≠ '/' ∧ c ≠ '?' ∧ c ≠ '#') = authority := by
    rw [← List.append_nil authority, List.takeWhile_append_of_pos hinside, List.takeWhile_nil]
  have hdrop : authority.dropWhile (fun c => c ≠ '/' ∧ c ≠ '?' ∧ c ≠ '#') = [] := by
    rw [← List.append_nil authority, List.dropWhile_append_of_pos hinside, List.dropWhile_nil]
  have hcolon : letter :: scheme ++ "://".toList ++ authority =
      letter :: scheme ++ ':' :: '/' :: '/' :: authority := by
    rw [List.append_assoc]
    rfl
  rw [Pieces.ofChars, hcolon, cutScheme_cons hletter hscheme]
  simp only [cutAuthority, htake, hdrop]
  rfl

/-- Trailing slashes are not part of what stands before them. -/
theorem trimEnd_append_replicate {c : Char} {cs : List Char} (h : c ∉ cs) (hcs : cs ≠ [])
    (front : List Char) (n : Nat) :
    trimEnd (· = c) (front ++ cs ++ List.replicate n c) = front ++ cs := by
  have hreplicate : ∀ d ∈ List.replicate n c, decide (d = c) = true := by
    intro d hd
    exact decide_eq_true (List.eq_of_mem_replicate hd)
  obtain rfl | ⟨start, last, rfl⟩ := List.eq_nil_or_concat cs
  · exact absurd rfl hcs
  have hlast : last ≠ c := by
    rintro rfl
    exact h (by simp)
  rw [trimEnd, List.reverse_append, List.reverse_replicate,
    List.dropWhile_append_of_pos hreplicate, List.reverse_append,
    List.concat_eq_append, List.reverse_concat, List.cons_append,
    List.dropWhile_cons_of_neg (by simpa using hlast)]
  simp

/-! ## Bases -/

/-- An origin is its own base. -/
theorem asBase_of_isOrigin {address : List Char} (h : IsOrigin address) {base : Url}
    (hbase : asBase address = .ok base) :
    base.scheme ≠ [] ∧ base.path = [] ∧ base.query = none := by
  obtain ⟨slashes, hletter, hscheme, hne, hslash, hquery, hfragment⟩ := h
  rw [asBase, trimEnd_append_replicate hslash hne] at hbase
  obtain ⟨url, hurl, hbase⟩ := except_bind_eq_ok.mp hbase
  have hpieces := ofPieces_of_ofChars hurl
  rw [pieces_of_origin hletter hscheme hslash hquery hfragment] at hpieces
  obtain ⟨hs, hq, hp, -⟩ := ofPieces_eq_ok hpieces
  have hpath : url.path = [] := hp (List.cons_ne_nil _ _)
  have htarget : url.target.getLast? = some '/' := by
    rw [target, hpath, hq]
    rfl
  rw [if_pos htarget] at hbase
  cases hbase
  exact ⟨by rw [hs]; exact List.cons_ne_nil _ _, hpath, hq⟩

/-- The pieces of a path with one slash in front. -/
theorem pieces_of_path {c : Char} (hc : c ≠ '/') (rest : List Char) :
    Pieces.ofChars ('/' :: c :: rest) =
      { scheme := [], authority := []
        path := (cutFirst '?' (cutFirst '#' ('/' :: c :: rest)).1).1
        query := (cutFirst '?' (cutFirst '#' ('/' :: c :: rest)).1).2
        fragment := (cutFirst '#' ('/' :: c :: rest)).2 } := by
  have hscheme : cutScheme ('/' :: c :: rest) = ([], '/' :: c :: rest) := rfl
  have hauthority : cutAuthority ('/' :: c :: rest) = ([], '/' :: c :: rest) := by
    unfold cutAuthority
    split
    · case h_1 heq =>
      injection heq with _ heq
      injection heq with heq _
      exact absurd heq hc
    · rfl
  rw [Pieces.ofChars, hscheme]
  simp only [hauthority]

/-- Path and query are told apart again after they were put together. -/
theorem cutFirst_target {path : List Char} (h : '?' ∉ path) (query : Option (List Char)) :
    cutFirst '?' (path ++
      match query with
      | none => []
      | some query => '?' :: query) = (path, query) := by
  cases query with
  | none => rw [List.append_nil, cutFirst_of_not_mem h]
  | some query => exact cutFirst_append_cons h query

/-- A path under a base without a path of its own is put in its place, and the parts are checked again. -/
theorem under_eq {base : Url} (hpath : base.path = []) (hquery : base.query = none) {c : Char}
    (hc : c ≠ '/') (hplain : Percent.inPath c = true) (rest : List Char) :
    under base ('/' :: c :: rest) = ofChars ('/' :: c :: rest) >>= fun _ =>
      rebuild { base.toPieces with
        path := Percent.encode Percent.inPath (cutFirst '?' (cutFirst '#' ('/' :: c :: rest)).1).1
        query := (cutFirst '?' (cutFirst '#' ('/' :: c :: rest)).1).2.map
          (Percent.encode Percent.inQuery) } := by
  unfold under
  cases hrelative : ofChars ('/' :: c :: rest) with
  | error fault => rfl
  | ok relative =>
    have hpieces := ofPieces_of_ofChars hrelative
    rw [pieces_of_path hc] at hpieces
    obtain ⟨hs, hq, -, hp⟩ := ofPieces_eq_ok hpieces
    specialize hp rfl rfl
    have habsolute : ¬ relative.isAbsolute = true := by simp [isAbsolute, hs]
    simp only [except_ok_bind, if_neg habsolute]
    -- the path and the query of the reference, as they are cut from the text
    obtain ⟨way, hway⟩ : ∃ way,
        (cutFirst '?' (cutFirst '#' ('/' :: c :: rest)).1).1 = '/' :: c :: way := by
      have hne : ∀ separator, Percent.inPath separator = false → c ≠ separator := by
        rintro separator hseparator rfl
        rw [hseparator] at hplain
        cases hplain
      rw [cutFirst_cons_of_ne (by decide), cutFirst_cons_of_ne (hne '#' (by decide)),
        cutFirst_cons_of_ne (by decide), cutFirst_cons_of_ne (hne '?' (by decide))]
      exact ⟨_, rfl⟩
    generalize (cutFirst '?' (cutFirst '#' ('/' :: c :: rest)).1).2 = query at hq ⊢
    rw [hway] at hp ⊢
    have hslash : Percent.inPath '/' = true := by decide
    have hescaped : Percent.encode Percent.inPath ('/' :: c :: way) =
        '/' :: c :: Percent.encode Percent.inPath way := by
      rw [Percent.encode_cons_of_plain hslash, Percent.encode_cons_of_plain hplain]
    have htarget : base.target ++ relative.target.dropWhile (· = '/') =
        Percent.encode Percent.inPath ('/' :: c :: way) ++
          match relative.query with
          | none => []
          | some query => '?' :: query := by
      have hroot : base.target = ['/'] := by
        rw [target, hpath, hquery]
        rfl
      have hway : relative.target = '/' :: c :: (Percent.encode Percent.inPath way ++
          match relative.query with
          | none => []
          | some query => '?' :: query) := by
        rw [target, hp, hescaped, List.isEmpty_cons, if_neg Bool.false_ne_true]
        rfl
      rw [hroot, hway, List.dropWhile_cons_of_pos (by decide),
        List.dropWhile_cons_of_neg (by simp [hc]), hescaped]
      rfl
    have hno_query : '?' ∉ Percent.encode Percent.inPath ('/' :: c :: way) := by
      intro hmem
      rcases Percent.mem_encode hmem with ⟨-, hmem⟩ | hmem | hmem <;> exact absurd hmem (by decide)
    rw [htarget, withTarget, cutFirst_target hno_query, hq]

/-- What is asked for a path under a base without a path of its own. -/
theorem under_eq_ok {base : Url} (hscheme : base.scheme ≠ []) (hpath : base.path = [])
    (hquery : base.query = none) {c : Char} (hc : c ≠ '/') (hplain : Percent.inPath c = true)
    (rest : List Char) {url : Url} (h : under base ('/' :: c :: rest) = .ok url) :
    url.path = sentPath (cutFirst '?' (cutFirst '#' ('/' :: c :: rest)).1).1 ∧
      url.query = (cutFirst '?' (cutFirst '#' ('/' :: c :: rest)).1).2.map fun query =>
        Percent.encode Percent.inQuery (Percent.encode Percent.inQuery query) := by
  rw [under_eq hpath hquery hc hplain] at h
  obtain ⟨relative, -, h⟩ := except_bind_eq_ok.mp h
  obtain ⟨-, hq, hp, -⟩ := ofPieces_eq_ok (ofPieces_of_rebuild h)
  refine ⟨hp hscheme, ?_⟩
  rw [hq, Option.map_map]
  rfl

/-- A path that is asked for under an origin is asked for as it is written, and without a query,
exactly if it is taken as it is written. -/
theorem under_origin_iff {address : List Char} (haddress : IsOrigin address) {base : Url}
    (hbase : asBase address = .ok base) {c : Char} (hc : c ≠ '/')
    (hplain : Percent.inPath c = true) (rest : List Char) {url : Url}
    (h : under base ('/' :: c :: rest) = .ok url) :
    (Percent.decode url.path = Utf8.encode ('/' :: c :: rest) ∧ url.query = none) ↔
      IsLiteral ('/' :: c :: rest) := by
  obtain ⟨hscheme, hpath, hquery⟩ := asBase_of_isOrigin haddress hbase
  obtain ⟨hp, hq⟩ := under_eq_ok hscheme hpath hquery hc hplain rest h
  rw [← decode_sentPath_eq_iff, hp, hq, Option.map_eq_none_iff]

end IamLogin.Url
