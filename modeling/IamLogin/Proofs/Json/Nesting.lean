import IamLogin.Proofs.Json.RoundTrip

/-!
# Bodies that are nested too deeply

A body that opens more lists than the reader goes down is not read, whatever comes after. The reader stops
where it would go further, so it never sees the rest.
-/

namespace IamLogin.Json

namespace Reader

/-- No blank stands before a list that is opened. -/
theorem skipGaps_lists (room : Nat) (rest : Text) :
    skipGaps (List.replicate (room + 1) (.char '[') ++ rest) =
      List.replicate (room + 1) (.char '[') ++ rest := by
  rw [List.replicate_succ, List.cons_append, skipGaps_cons (by decide)]

/-- The reader stops at the first list for which there is no room. -/
theorem value_lists (room fuel : Nat) (rest : Text) :
    value (fuel + 2 * room + 1) room (List.replicate (room + 1) (.char '[') ++ rest) =
      .error (.tooDeep .array) := by
  induction room with
  | zero => rfl
  | succ room ih =>
    rw [List.replicate_succ, List.cons_append, value]
    simp only [skipGaps_lists]
    rw [List.replicate_succ, List.cons_append]
    -- the next symbol opens another list, so this one is not empty
    change items (fuel + 2 * room + 2) room [] _ = _
    rw [items, ← List.cons_append, ← List.replicate_succ, ih]
    rfl

end Reader

/-- A text that opens too many lists is not read. -/
theorem read_lists (rest : Text) :
    read (List.replicate (Reader.depthLimit + 1) (.char '[') ++ rest) =
      .error (.tooDeep .array) := by
  have hfuel : 2 * (List.replicate (Reader.depthLimit + 1) (Symbol.char '[') ++ rest).length + 2 =
      (2 * rest.length + 3) + 2 * Reader.depthLimit + 1 := by
    rw [List.length_append, List.length_replicate]
    omega
  rw [read, Reader.skipGaps_lists, hfuel, Reader.value_lists]
  rfl

/-- The bytes of such a text are not read either, if the zero character does not occur in it. -/
theorem readBytes_lists {cs : List Char} (hzero : ∀ c ∈ cs, 0 < c.toNat) :
    readBytes (Utf8.encode (List.replicate (Reader.depthLimit + 1) '[' ++ cs)) =
      .error (.tooDeep .array) := by
  have hpositive : ∀ c ∈ '[' :: (List.replicate Reader.depthLimit '[' ++ cs), 0 < c.toNat := by
    intro c hc
    rw [← List.cons_append, ← List.replicate_succ] at hc
    rcases List.mem_append.mp hc with hc | hc
    · rw [List.eq_of_mem_replicate hc]
      decide
    · exact hzero c hc
  rw [List.replicate_succ, List.cons_append, readBytes_encode (by decide) hpositive,
    ← List.cons_append, ← List.replicate_succ, Text.ofChars_append, Text.ofChars,
    List.map_replicate, read_lists]

end IamLogin.Json
