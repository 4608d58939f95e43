import InlineEval.Proofs.Text.Encoding
import InlineEval.Text.Clip

/-! # Clipping between characters

A text can be cut at its boundaries and nowhere else, and what is in front of
the cut is what the octets in front of it say. The place of a character is a
boundary, so clipping finds a place to cut for every limit, and what it gives
stays as it is when it is clipped again.
-/

namespace InlineEval.Text

/-- What is passed by on the way to a byte is a beginning of the text. -/
theorem exists_of_beforeFrom?_eq_some {passed t kept : Text} {size : Nat}
    (hcut : beforeFrom? passed t size = some kept) :
    ∃ own, own <+: t ∧ byteSize own = size ∧ kept = passed.reverse ++ own := by
  fun_induction beforeFrom? passed t size with
  | case1 passed t =>
      cases hcut
      exact ⟨[], List.nil_prefix, rfl, (List.append_nil _).symm⟩
  | case2 => cases hcut
  | case3 passed c rest size hfits ih =>
      obtain ⟨own, hown, hsize, rfl⟩ := ih hcut
      refine ⟨c :: own, (List.prefix_cons_inj c).mpr hown, ?_, by simp⟩
      rw [byteSize_cons, hsize]
      omega
  | case4 => cases hcut

theorem before?_eq_some_iff {t kept : Text} {byte : Nat} :
    before? t byte = some kept ↔ kept <+: t ∧ byteSize kept = byte := by
  constructor
  · intro hcut
    obtain ⟨own, hown, hsize, rfl⟩ := exists_of_beforeFrom?_eq_some hcut
    exact ⟨hown, hsize⟩
  · rintro ⟨⟨rest, rfl⟩, rfl⟩
    exact before?_append kept rest

/-- A text is cut at a boundary, and the octets in front of it are decoded to
what is in front of the cut. -/
theorem before?_eq_some_iff_decode? {t kept : Text} {byte : Nat} :
    before? t byte = some kept ↔
      IsBoundary t byte ∧ Utf8.decode? ((Utf8.encode t).take byte) = some kept := by
  rw [before?_eq_some_iff]
  constructor
  · rintro ⟨hkept, rfl⟩
    refine ⟨isBoundary_iff.mpr ⟨kept, hkept, rfl⟩, ?_⟩
    rw [take_byteSize_encode hkept, Utf8.decode?_encode]
  · rintro ⟨hboundary, hdecode⟩
    obtain ⟨own, hown, rfl⟩ := isBoundary_iff.mp hboundary
    rw [take_byteSize_encode hown, Utf8.decode?_encode, Option.some.injEq] at hdecode
    exact hdecode ▸ ⟨hown, rfl⟩

/-- The second octet of a character is no place to cut. -/
example : before? "aé".toList 2 = none ∧ ¬ IsBoundary "aé".toList 2 := by decide

/-- A text that is too long is clipped to the limit, or to the ellipsis where
that exceeds the limit. -/
theorem length_clip (t : Text) (limit : Nat) :
    (clip t limit).length = if t.length ≤ limit then t.length else max limit 3 := by
  split
  next hfits => rw [clip_of_length_le hfits]
  next hlong =>
    rw [clip_of_length_gt (by omega), List.length_append, List.length_take]
    have hellipsis : ellipsis.length = 3 := rfl
    omega

/-- What was clipped needs no more clipping. Below three the ellipsis is clipped
to itself. -/
theorem clip_clip (t : Text) (limit : Nat) : clip (clip t limit) limit = clip t limit := by
  have hlength := length_clip t limit
  split at hlength
  next hfits => exact clip_of_length_le (by omega)
  next hlong =>
    rcases Nat.lt_or_ge limit 3 with hbelow | hroom
    · have hnothing : limit - 3 = 0 := by omega
      have hellipsis : clip t limit = ellipsis := by
        rw [clip_of_length_gt (by omega), hnothing, List.take_zero, List.nil_append]
      rw [hellipsis, clip_of_length_gt hbelow, hnothing, List.take_zero, List.nil_append]
    · exact clip_of_length_le (by omega)

/-- Every character starts at a boundary, with the characters before it in the
octets in front. So a text that exceeds a limit is clipped to whole characters
and the ellipsis; with room for the ellipsis the limit is kept, and clipping
twice is clipping once for every limit. -/
theorem clip_respects_characters (t : Text) (limit : Nat) :
    (∀ n, IsBoundary t (byteOffset t n) ∧
        Utf8.decode? ((Utf8.encode t).take (byteOffset t n)) = some (t.take n)) ∧
      clip t limit = (if t.length ≤ limit then t else t.take (limit - 3) ++ "...".toList) ∧
      (3 ≤ limit → (clip t limit).length ≤ limit) ∧
      clip (clip t limit) limit = clip t limit := by
  refine ⟨fun n => before?_eq_some_iff_decode?.mp (before?_byteOffset t n), ?_, ?_,
    clip_clip t limit⟩
  · split
    next hfits => exact clip_of_length_le hfits
    next hlong => exact clip_of_length_gt (by omega)
  · intro hroom
    rw [length_clip]
    split <;> omega

/-- Characters of one to four octets, of which two have room in front of the
ellipsis. -/
theorem clip_respects_characters_of_every_size :
    let t := "aé€😀z!".toList
    3 ≤ 5 ∧ IsBoundary t (byteOffset t 4) ∧ byteOffset t 4 = 10 ∧
      clip t 5 = "aé...".toList ∧ (clip t 5).length ≤ 5 := by
  intro t
  have hroom : 3 ≤ 5 := by decide
  obtain ⟨hplaces, hclip, hlength, -⟩ := clip_respects_characters t 5
  exact ⟨hroom, (hplaces 4).1, by decide, hclip, hlength hroom⟩

end InlineEval.Text
