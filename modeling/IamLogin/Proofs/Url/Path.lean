import IamLogin.Proofs.Url.Percent
import IamLogin.Url.Reader

/-!
# What becomes of a path

A path is escaped, its dot segments are resolved, and it is escaped again. Escaping goes segment by
segment and makes no dot segments. Resolving takes dot segments away, with what they stand for and
without putting anything in their place, so a path stands for less than before if it had any. Hence a
path that is sent stands for what was written exactly when there was nothing to resolve.
-/

namespace IamLogin

/-! ## Pieces -/

section

variable {α β : Type} [DecidableEq α] [DecidableEq β]

/-- Cutting into pieces is splitting a list. -/
theorem pieces_eq_splitOn (separator : α) (cs : List α) :
    pieces separator cs = cs.splitOn separator := by
  induction cs with
  | nil => rfl
  | cons c rest ih =>
    rw [List.splitOn_cons_eq_if_modifyHead, ← ih]
    by_cases hc : c = separator
    · simp [pieces, hc]
    · obtain ⟨p, ps, hpieces⟩ := List.exists_cons_of_ne_nil (pieces_ne_nil separator rest)
      rw [hpieces]
      rw [pieces] at hpieces
      simp [pieces, hc, hpieces]

/-- A separator in front ends a piece of nothing. -/
@[simp] theorem pieces_separator_cons (separator : α) (cs : List α) :
    pieces separator (separator :: cs) = [] :: pieces separator cs := by
  rw [pieces_eq_splitOn, pieces_eq_splitOn, List.splitOn_cons_eq_if_modifyHead, if_pos (by simp)]

/-- Text without separators goes to the first of the pieces that follow. -/
theorem pieces_append_of_not_mem {separator : α} {cs : List α} (h : separator ∉ cs)
    (ds : List α) :
    pieces separator (cs ++ ds) = (pieces separator ds).modifyHead (cs ++ ·) := by
  induction cs with
  | nil => cases hds : pieces separator ds <;> simp [hds]
  | cons c rest ih =>
    rw [List.mem_cons, not_or] at h
    rw [List.cons_append, pieces_eq_splitOn, List.splitOn_cons_eq_if_modifyHead,
      ← pieces_eq_splitOn, ih h.2, if_neg (by simpa using Ne.symm h.1), List.modifyHead_modifyHead]
    rfl

/-- A character that is no separator goes to the first of the pieces that follow. -/
theorem pieces_cons_of_ne {separator c : α} (h : c ≠ separator) (cs : List α) :
    pieces separator (c :: cs) = (pieces separator cs).modifyHead (c :: ·) := by
  have hnot : separator ∉ [c] := by simpa using Ne.symm h
  exact pieces_append_of_not_mem hnot cs

/-- Where the separators stay what they are and no others are made, the pieces are changed one by one. -/
theorem pieces_map {separator : α} {image : β} {f : α → β} {cs : List α}
    (h : ∀ c ∈ cs, f c = image ↔ c = separator) :
    pieces image (cs.map f) = (pieces separator cs).map (List.map f) := by
  induction cs with
  | nil => rfl
  | cons c rest ih =>
    have hc := h c List.mem_cons_self
    have hrest := ih fun d hd => h d (List.mem_cons_of_mem c hd)
    by_cases heq : c = separator
    · subst heq
      rw [List.map_cons, hc.mpr rfl, pieces_separator_cons, pieces_separator_cons, hrest]
      rfl
    · rw [List.map_cons, pieces_cons_of_ne (mt hc.mp heq), pieces_cons_of_ne heq, hrest]
      cases pieces separator rest <;> rfl

end

/-- Putting the pieces together again gives the text. -/
theorem joinPieces_pieces (separator : Char) (cs : List Char) :
    joinPieces separator (pieces separator cs) = cs := by
  rw [joinPieces, pieces_eq_splitOn, List.intercalate_splitOn]

/-- The pieces on the two sides of a separator are cut one by one. -/
theorem pieces_append_cons (separator : Char) (cs ds : List Char) :
    pieces separator (cs ++ separator :: ds) = pieces separator cs ++ pieces separator ds := by
  simp only [pieces_eq_splitOn, List.splitOn_append_cons_self]

/-! ## Cutting -/

/-- A text without the separator is not cut. -/
theorem cutFirst_of_not_mem {separator : Char} {cs : List Char} (h : separator ∉ cs) :
    cutFirst separator cs = (cs, none) := by
  have hdrop : cs.dropWhile (· ≠ separator) = [] := by
    rw [← List.append_nil cs, List.dropWhile_append_of_pos, List.dropWhile_nil]
    rintro c hc
    exact decide_eq_true fun heq => h (heq ▸ hc)
  rw [cutFirst, hdrop]

/-- A text is cut at the first separator. -/
theorem cutFirst_append_cons {separator : Char} {cs : List Char} (h : separator ∉ cs)
    (ds : List Char) : cutFirst separator (cs ++ separator :: ds) = (cs, some ds) := by
  have hcs : ∀ c ∈ cs, decide (c ≠ separator) = true := by
    rintro c hc
    exact decide_eq_true fun heq => h (heq ▸ hc)
  rw [cutFirst, List.dropWhile_append_of_pos hcs, List.dropWhile_cons_of_neg (by simp),
    List.takeWhile_append_of_pos hcs, List.takeWhile_cons_of_neg (by simp), List.append_nil]

/-- A character that is no separator stays in front. -/
theorem cutFirst_cons_of_ne {separator c : Char} (h : c ≠ separator) (cs : List Char) :
    cutFirst separator (c :: cs) =
      (c :: (cutFirst separator cs).1, (cutFirst separator cs).2) := by
  rw [cutFirst, cutFirst, List.dropWhile_cons_of_pos (by simpa using h),
    List.takeWhile_cons_of_pos (by simpa using h)]
  cases hrest : cs.dropWhile (· ≠ separator) with
  | nil => rfl
  | cons => rfl

/-- The front of a cut text is shorter than the text unless the separator is missing. -/
theorem cutFirst_length_le (separator : Char) (cs : List Char) :
    (Utf8.encode (cutFirst separator cs).1).length + (if separator ∈ cs then 1 else 0) ≤
      (Utf8.encode cs).length := by
  split
  · case isTrue h =>
    obtain ⟨front, rest, rfl, hfront⟩ := List.eq_append_cons_of_mem h
    have hpos := Utf8.utf8EncodeChar_length_pos separator
    rw [cutFirst_append_cons hfront, Utf8.encode_append, Utf8.encode_cons, List.length_append,
      List.length_append]
    simp only
    omega
  · case isFalse h =>
    rw [cutFirst_of_not_mem h]
    exact Nat.le_refl _

/-! ## Escaping segments -/

namespace Percent

/-- Escapes are made of percent signs and hexadecimal digits. -/
theorem mem_byte {c : Char} {b : UInt8} (h : c ∈ byte b) : c = '%' ∨ isHex c = true := by
  rcases List.mem_cons.mp h with rfl | h
  · exact .inl rfl
  · rcases List.mem_cons.mp h with rfl | h
    · exact .inr (by rw [isHex, Hex.value?_upper]; rfl)
    · rw [List.mem_singleton.mp h]
      exact .inr (by rw [isHex, Hex.value?_upper]; rfl)

variable {plain : Char → Bool}

/-- What stands in an escaped text stood in the text, or is part of an escape. -/
theorem mem_encode {c : Char} {cs : List Char} (h : c ∈ encode plain cs) :
    (c ∈ cs ∧ plain c = true) ∨ c = '%' ∨ isHex c = true := by
  obtain ⟨d, hd, h⟩ := List.mem_flatMap.mp h
  split at h
  · case isTrue hplain =>
    rw [List.mem_singleton.mp h]
    exact .inl ⟨hd, hplain⟩
  · case isFalse =>
    obtain ⟨b, _, hb⟩ := List.mem_flatMap.mp h
    exact .inr (mem_byte hb)

/-- A separator that stands for itself divides a text into pieces that are escaped one by one. -/
theorem pieces_encode {separator : Char} (hplain : plain separator = true)
    (hpercent : separator ≠ '%') (hhex : isHex separator = false) (cs : List Char) :
    pieces separator (encode plain cs) = (pieces separator cs).map (encode plain) := by
  induction cs with
  | nil => rfl
  | cons c rest ih =>
    by_cases hc : c = separator
    · subst hc
      rw [encode_cons_of_plain hplain, pieces_separator_cons, pieces_separator_cons, ih]
      rfl
    · have hnot : separator ∉ encode plain [c] := by
        intro h
        rcases mem_encode h with ⟨hmem, -⟩ | heq | hseparator
        · exact hc (List.mem_singleton.mp hmem).symm
        · exact hpercent heq
        · rw [hhex] at hseparator
          cases hseparator
      have hnot' : separator ∉ [c] := by simpa using Ne.symm hc
      have hcons : ∀ ds : List Char, c :: ds = [c] ++ ds := fun ds => rfl
      rw [hcons, encode_append, pieces_append_of_not_mem hnot, pieces_append_of_not_mem hnot', ih]
      cases pieces separator rest with
      | nil => rfl
      | cons p ps => simp only [List.map_cons, List.modifyHead_cons, encode_append]

/-- What has no percent sign once it is escaped has not been changed. -/
theorem encode_eq_of_not_mem {cs : List Char} (h : '%' ∉ encode plain cs) :
    encode plain cs = cs := by
  refine encode_eq_self fun c hc => ?_
  rw [← Bool.not_eq_false]
  intro hplain
  refine h (List.mem_flatMap.mpr ⟨c, hc, ?_⟩)
  obtain ⟨rest, hrest⟩ := exists_flatMap_byte c
  simp [hplain, hrest]

end Percent

/-! ## Dot segments -/

namespace Url

/-- Whether a segment names a directory by dots. -/
def isDots (segment : List Char) : Bool := segment = ['.'] ∨ segment = ['.', '.']

/-- Segments in reverse with another one settled. -/
def settle (done : List (List Char)) (segment : List Char) : List (List Char) :=
  if segment = ['.'] then done
  else if segment = ['.', '.'] then
    if done = [] ∨ done = [[]] then done else done.drop 1
  else segment :: done

/-- Segments are settled one after the other. -/
theorem resolveDots_eq (segments : List (List Char)) :
    resolveDots segments = (segments.foldl settle []).reverse := rfl

/-- A segment other than dots is kept. -/
theorem settle_of_not_isDots {segment : List Char} (h : isDots segment = false)
    (done : List (List Char)) : settle done segment = segment :: done := by
  simp only [isDots, decide_eq_false_iff_not, not_or] at h
  rw [settle, if_neg h.1, if_neg h.2]

/-- Without dot segments nothing is resolved. -/
theorem resolveDots_of_not_isDots {segments : List (List Char)}
    (h : ∀ segment ∈ segments, isDots segment = false) : resolveDots segments = segments := by
  suffices hfold : ∀ done, segments.foldl settle done = segments.reverse ++ done by
    rw [resolveDots_eq, hfold, List.append_nil, List.reverse_reverse]
  induction segments with
  | nil =>
    intro done
    rfl
  | cons segment rest ih =>
    intro done
    rw [List.foldl_cons, settle_of_not_isDots (h segment List.mem_cons_self),
      ih fun other hother => h other (List.mem_cons_of_mem segment hother)]
    simp

/-- The number of bytes that segments stand for, each with a slash. -/
def extent (segments : List (List Char)) : Nat :=
  segments.foldr (fun segment bytes => (Percent.decode segment).length + 1 + bytes) 0

/-- No segments have no extent. -/
@[simp] theorem extent_nil : extent [] = 0 := rfl

/-- A segment adds its bytes and a slash. -/
@[simp] theorem extent_cons (segment : List Char) (segments : List (List Char)) :
    extent (segment :: segments) = (Percent.decode segment).length + 1 + extent segments := rfl

/-- The extents of two paths add up. -/
theorem extent_append (segments more : List (List Char)) :
    extent (segments ++ more) = extent segments + extent more := by
  induction segments with
  | nil => rw [List.nil_append, extent_nil, Nat.zero_add]
  | cons segment segments ih =>
    rw [List.cons_append, extent_cons, extent_cons, ih]
    omega

/-- The extent of segments does not depend on their order. -/
theorem extent_reverse (segments : List (List Char)) :
    extent segments.reverse = extent segments := by
  induction segments with
  | nil => rfl
  | cons segment segments ih =>
    rw [List.reverse_cons, extent_append, ih, extent_cons, extent_cons, extent_nil]
    omega

/-- Settling a segment adds at most the segment, and a dot segment is not added at all. -/
theorem extent_settle_le (done : List (List Char)) (segment : List Char) :
    extent (settle done segment) + (if isDots segment = true then 2 else 0) ≤
      extent done + ((Percent.decode segment).length + 1) := by
  cases hdots : isDots segment with
  | false =>
    rw [settle_of_not_isDots hdots, extent_cons, if_neg Bool.false_ne_true]
    omega
  | true =>
    simp only [isDots, decide_eq_true_eq] at hdots
    have hdrop : extent (done.drop 1) ≤ extent done := by
      cases done with
      | nil => exact Nat.le_refl _
      | cons first rest =>
        rw [List.drop_succ_cons, List.drop_zero, extent_cons]
        omega
    rw [if_pos rfl]
    rcases hdots with rfl | rfl
    · have hone : (Percent.decode ['.']).length = 1 := by decide
      rw [settle, if_pos rfl]
      omega
    · have htwo : (Percent.decode ['.', '.']).length = 2 := by decide
      rw [settle, if_neg (by decide), if_pos rfl]
      split <;> omega

/-- Resolving dot segments takes them away and adds nothing. -/
theorem extent_resolveDots_le (segments : List (List Char)) :
    extent (resolveDots segments) + (if segments.any isDots = true then 2 else 0) ≤
      extent segments := by
  suffices hfold : ∀ done, extent (segments.foldl settle done) +
      (if segments.any isDots = true then 2 else 0) ≤ extent done + extent segments by
    rw [resolveDots_eq, extent_reverse]
    simpa using hfold []
  induction segments with
  | nil =>
    intro done
    exact Nat.le_refl _
  | cons segment rest ih =>
    intro done
    have hstep := extent_settle_le done segment
    have hrest := ih (settle done segment)
    rw [List.foldl_cons, List.any_cons, extent_cons]
    cases hdots : isDots segment <;> cases hany : rest.any isDots <;>
      rw [hdots] at hstep <;> rw [hany] at hrest <;>
      simp only [Bool.or_self, Bool.or_true, Bool.or_false, Bool.false_eq_true, if_true, if_false]
        at hstep hrest ⊢ <;>
      omega

/-- What segments stand for, put together with a slash between each two. -/
theorem decode_joinPieces_length {segments : List (List Char)} (h : segments ≠ []) :
    (Percent.decode (joinPieces '/' segments)).length + 1 = extent segments := by
  induction segments with
  | nil => exact absurd rfl h
  | cons segment rest ih =>
    cases rest with
    | nil => rw [joinPieces, List.intercalate_singleton, extent_cons, extent_nil]
    | cons next rest =>
      have hslash : (List.head? ('/' :: joinPieces '/' (next :: rest))).any Percent.isHex = false :=
        rfl
      have hjoin : joinPieces '/' (segment :: next :: rest) =
          segment ++ '/' :: joinPieces '/' (next :: rest) := by
        rw [joinPieces, List.intercalate_cons_cons, List.append_assoc]
        rfl
      have hbyte : (String.utf8EncodeChar '/').length = 1 := by decide
      rw [hjoin, Percent.decode_append hslash, Percent.decode_cons rfl, List.length_append,
        List.length_append, extent_cons, ← ih (List.cons_ne_nil _ _), hbyte]
      omega

/-- A path with its dot segments resolved stands for less than before if it had any. -/
theorem decode_normalPath_length_le (path : List Char) :
    (Percent.decode (normalPath path)).length +
        (if (pieces '/' path).any isDots = true then 1 else 0) ≤ (Percent.decode path).length := by
  have hextent := extent_resolveDots_le (pieces '/' path)
  have hpath := decode_joinPieces_length (pieces_ne_nil '/' path)
  rw [joinPieces_pieces] at hpath
  rw [normalPath]
  by_cases hnil : resolveDots (pieces '/' path) = []
  · rw [hnil, extent_nil] at hextent
    have hempty : (Percent.decode (joinPieces '/' [])).length = 0 := rfl
    rw [hnil, hempty]
    cases hdots : (pieces '/' path).any isDots <;> rw [hdots] at hextent <;>
      simp only [Bool.false_eq_true, if_true, if_false] at hextent ⊢ <;> omega
  · have hresolved := decode_joinPieces_length hnil
    cases hdots : (pieces '/' path).any isDots <;> rw [hdots] at hextent <;>
      simp only [Bool.false_eq_true, if_true, if_false] at hextent ⊢ <;> omega

/-! ## Sending -/

/-- The path that is sent for a path: escaped, with its dot segments resolved, and escaped again. -/
def sentPath (path : List Char) : List Char :=
  Percent.encode Percent.inPath (normalPath (Percent.encode Percent.inPath path))

/-- Hexadecimal digits may stand in a path. -/
theorem inPath_of_isHex (c : Char) (h : Percent.isHex c = true) : Percent.inPath c = true := by
  have hcode := (Percent.isHex_iff c).mp h
  have hne : ∀ d : Char, (d.toNat < 0x30 ∨ (0x39 < d.toNat ∧ d.toNat < 0x41) ∨ 0x66 < d.toNat ∨
      (0x46 < d.toNat ∧ d.toNat < 0x61)) → c ≠ d := by
    rintro d hd rfl
    omega
  have hquery : ¬ ['"', '#', '<', '>'].contains c := by
    simp [hne '"' (by decide), hne '#' (by decide), hne '<' (by decide), hne '>' (by decide)]
  have hpath : ¬ ['?', '`', '{', '}'].contains c := by
    simp [hne '?' (by decide), hne '`' (by decide), hne '{' (by decide), hne '}' (by decide)]
  have hvisible : Percent.isVisible c = true := by
    simp only [Percent.isVisible, decide_eq_true_eq]
    omega
  simp only [Percent.inPath, Percent.inQuery, hvisible, hquery, hpath, true_and,
    Bool.false_eq_true, not_false_eq_true, decide_true]

/-- What stands for itself in a path is visible. -/
theorem isVisible_of_inPath {c : Char} (h : Percent.inPath c = true) : Percent.isVisible c = true := by
  simp only [Percent.inPath, Percent.inQuery, decide_eq_true_eq] at h
  exact h.1.1

/-- Escaping a path does not change what it stands for. -/
theorem decode_encode_inPath (path : List Char) :
    Percent.decode (Percent.encode Percent.inPath path) = Percent.decode path :=
  Percent.decode_encode rfl inPath_of_isHex path

/-- Escaping neither makes nor hides dot segments. -/
theorem isDots_encode (segment : List Char) :
    isDots (Percent.encode Percent.inPath segment) = isDots segment := by
  by_cases h : '%' ∈ Percent.encode Percent.inPath segment
  · have hencoded : isDots (Percent.encode Percent.inPath segment) = false := by
      rw [isDots, decide_eq_false_iff_not]
      rintro (hdots | hdots) <;> rw [hdots] at h <;> exact absurd h (by decide)
    have hsegment : isDots segment = false := by
      rw [isDots, decide_eq_false_iff_not]
      rintro (rfl | rfl) <;> exact absurd h (by decide)
    rw [hencoded, hsegment]
  · rw [Percent.encode_eq_of_not_mem h]

/-- The segments of an escaped path are the escaped segments of the path. -/
theorem pieces_encode_inPath (path : List Char) :
    pieces '/' (Percent.encode Percent.inPath path) =
      (pieces '/' path).map (Percent.encode Percent.inPath) :=
  Percent.pieces_encode rfl (by decide) rfl path

/-- A path that is taken as it is written: it ends no sooner than the text, has no escapes, and no
segments that name directories by dots. -/
structure IsLiteral (path : List Char) : Prop where
  /-- No query begins in it. -/
  no_query : '?' ∉ path
  /-- No fragment begins in it. -/
  no_fragment : '#' ∉ path
  /-- No escape stands in it. -/
  no_escape : Percent.hasEscape path = false
  /-- No dot segment stands in it. -/
  no_dots : ∀ segment ∈ pieces '/' path, isDots segment = false

/-- What stands in an escaped path stands for itself. -/
theorem inPath_of_mem_encode {c : Char} {path : List Char}
    (h : c ∈ Percent.encode Percent.inPath path) : Percent.inPath c = true := by
  rcases Percent.mem_encode h with ⟨-, hplain⟩ | rfl | hhex
  · exact hplain
  · decide
  · exact inPath_of_isHex c hhex

/-- A path without dot segments is sent as it is escaped; escaping it again changes nothing. -/
theorem sentPath_eq {path : List Char} (hdots : ∀ segment ∈ pieces '/' path, isDots segment = false) :
    sentPath path = Percent.encode Percent.inPath path := by
  have hresolved : resolveDots (pieces '/' (Percent.encode Percent.inPath path)) =
      pieces '/' (Percent.encode Percent.inPath path) := by
    refine resolveDots_of_not_isDots fun segment hsegment => ?_
    rw [pieces_encode_inPath] at hsegment
    obtain ⟨plain, hplain, rfl⟩ := List.mem_map.mp hsegment
    rw [isDots_encode]
    exact hdots plain hplain
  rw [sentPath, normalPath, hresolved, joinPieces_pieces,
    Percent.encode_eq_self fun c => inPath_of_mem_encode]

/-- A path without escapes and dot segments is sent so that it stands for itself. -/
theorem decode_sentPath {path : List Char} (hescape : Percent.hasEscape path = false)
    (hdots : ∀ segment ∈ pieces '/' path, isDots segment = false) :
    Percent.decode (sentPath path) = Utf8.encode path := by
  rw [sentPath_eq hdots, decode_encode_inPath, Percent.decode_eq_encode hescape]

/-- Escapes and dot segments make the path that is sent stand for less than was written. -/
theorem decode_sentPath_length_le (path : List Char) :
    (Percent.decode (sentPath path)).length + (if Percent.hasEscape path = true then 1 else 0) +
        (if (pieces '/' path).any isDots = true then 1 else 0) ≤ (Utf8.encode path).length := by
  have hnormal := decode_normalPath_length_le (Percent.encode Percent.inPath path)
  have hdots : ((pieces '/' path).map (Percent.encode Percent.inPath)).any isDots =
      (pieces '/' path).any isDots := by
    rw [List.any_map]
    exact congrArg _ (funext isDots_encode)
  rw [pieces_encode_inPath, hdots, decode_encode_inPath] at hnormal
  have hescape := Percent.decode_length_le path
  rw [sentPath, decode_encode_inPath]
  omega

/-- What is asked for a path stands for the path, without a query, exactly if the path is taken as it
is written. -/
theorem decode_sentPath_eq_iff (path : List Char) :
    (Percent.decode (sentPath (cutFirst '?' (cutFirst '#' path).1).1) = Utf8.encode path ∧
      (cutFirst '?' (cutFirst '#' path).1).2 = none) ↔ IsLiteral path := by
  constructor
  · rintro ⟨hpath, -⟩
    have hfragment := cutFirst_length_le '#' path
    have hquery := cutFirst_length_le '?' (cutFirst '#' path).1
    have hsent := decode_sentPath_length_le (cutFirst '?' (cutFirst '#' path).1).1
    rw [hpath] at hsent
    -- every cut and every change would make the path shorter than it was written
    have hno_fragment : '#' ∉ path := by
      intro h
      rw [if_pos h] at hfragment
      omega
    have hfront : (cutFirst '#' path).1 = path := by rw [cutFirst_of_not_mem hno_fragment]
    rw [hfront] at hquery hsent
    have hno_query : '?' ∉ path := by
      intro h
      rw [if_pos h] at hquery
      omega
    have hway : (cutFirst '?' path).1 = path := by rw [cutFirst_of_not_mem hno_query]
    rw [hway] at hsent
    refine ⟨hno_query, hno_fragment, ?_, fun segment hsegment => ?_⟩
    · rw [← Bool.not_eq_true]
      intro h
      rw [if_pos h] at hsent
      omega
    · rw [← Bool.not_eq_true]
      intro h
      rw [if_pos (List.any_eq_true.mpr ⟨segment, hsegment, h⟩)] at hsent
      omega
  · rintro ⟨hno_query, hno_fragment, hescape, hdots⟩
    rw [cutFirst_of_not_mem hno_fragment, cutFirst_of_not_mem hno_query]
    exact ⟨decode_sentPath hescape hdots, rfl⟩

end Url

end IamLogin
