import InlineEval.Text.Basic
import Mathlib.Data.List.DropRight

/-! # White space around a text

Trimming leaves no white space at either end, so it keeps a text that has none
there and takes a blank text away.
-/

namespace InlineEval.Text

theorem trimEnd_eq_rdropWhile (t : Text) : trimEnd t = t.rdropWhile isSpace := rfl

/-- The first character of a trimmed text has only white space before it. -/
theorem exists_of_head?_trim {c : Char} {t : Text} (hhead : (trim t).head? = some c) :
    ∃ space rest, isBlank space = true ∧ t = space ++ c :: rest := by
  obtain ⟨tail, htail⟩ := List.rdropWhile_prefix isSpace (trimStart t)
  obtain ⟨rest, hrest⟩ := List.head?_eq_some_iff.mp hhead
  refine ⟨t.takeWhile isSpace, rest ++ tail, List.all_takeWhile, ?_⟩
  have hstart : trimStart t = c :: (rest ++ tail) := by
    rw [← htail, ← trimEnd_eq_rdropWhile, ← List.cons_append, ← hrest]
    rfl
  rw [← hstart, trimStart, List.takeWhile_append_dropWhile]

/-- Trimming the end of a text keeps its first character, unless that is white
space, which is gone already. -/
theorem head?_trim (line : Text) : (trim line).head? = (trimStart line).head? := by
  have hbegins : trim line <+: trimStart line := List.rdropWhile_prefix isSpace (trimStart line)
  cases hstart : trimStart line with
  | nil =>
      rw [hstart, List.prefix_nil] at hbegins
      rw [hbegins]
  | cons c rest =>
      have hspace : isSpace c = false := by
        have hfirst := List.head?_dropWhile_not isSpace line
        rw [← trimStart, hstart] at hfirst
        exact hfirst
      cases htrim : trim line with
      | nil =>
          have hall := List.rdropWhile_eq_nil_iff.mp htrim c (by simp [hstart])
          rw [hspace] at hall
          cases hall
      | cons d kept =>
          rw [htrim, hstart, List.cons_prefix_cons] at hbegins
          rw [hbegins.1]
          rfl

theorem trim_of_isBlank {line : Text} (hblank : isBlank line = true) : trim line = [] := by
  have hstart : trimStart line = [] :=
    List.dropWhile_eq_nil_iff.mpr fun c hc => isBlank_iff.mp hblank c hc
  rw [trim, hstart]
  rfl

/-- Nothing is left of a text only if it is blank. -/
theorem trim_eq_nil_iff {t : Text} : trim t = [] ↔ isBlank t = true := by
  refine ⟨fun htrim => ?_, trim_of_isBlank⟩
  cases hstart : trimStart t with
  | nil => exact isBlank_iff.mpr (List.dropWhile_eq_nil_iff.mp hstart)
  | cons c rest =>
      have hhead := head?_trim t
      rw [htrim, hstart] at hhead
      cases hhead

theorem trimStart_eq_self {t : Text} (hfirst : ∀ c ∈ t.head?, isSpace c = false) :
    trimStart t = t := by
  cases t with
  | nil => rfl
  | cons c rest => exact List.dropWhile_cons_of_neg (by simpa using hfirst c rfl)

theorem trim_eq_self {t : Text} (hfirst : ∀ c ∈ t.head?, isSpace c = false)
    (hlast : ∀ c ∈ t.getLast?, isSpace c = false) : trim t = t := by
  have hend : t.rdropWhile isSpace = t :=
    List.rdropWhile_eq_self_iff.mpr fun hne => by
      simpa using hlast (t.getLast hne) (List.getLast?_eq_some_getLast hne)
  rw [trim, trimStart_eq_self hfirst, trimEnd_eq_rdropWhile, hend]

/-- What is trimmed at the end is white space. -/
theorem exists_eq_trimEnd_append (t : Text) :
    ∃ space, isBlank space = true ∧ t = trimEnd t ++ space := by
  refine ⟨t.rtakeWhile isSpace, isBlank_iff.mpr fun c => List.mem_rtakeWhile_imp, ?_⟩
  rw [trimEnd_eq_rdropWhile, List.rdropWhile_append_rtakeWhile]

/-! ## More text behind -/

theorem isBlank_append_eq_false {t : Text} (hkeep : isBlank t = false) (rest : Text) :
    isBlank (t ++ rest) = false := by
  rw [isBlank, List.all_append, ← isBlank, hkeep, Bool.false_and]

/-- The white space in front of a text stays in front of a longer one. -/
theorem takeWhile_isSpace_append {t : Text} (hkeep : isBlank t = false) (rest : Text) :
    (t ++ rest).takeWhile isSpace = t.takeWhile isSpace := by
  obtain ⟨c, hc, hspace⟩ := List.all_eq_false.mp hkeep
  have hshorter : ¬ (t.takeWhile isSpace).length = t.length := by
    intro hlength
    have hwhole : t.takeWhile isSpace = t :=
      (List.takeWhile_prefix isSpace).eq_of_length hlength
    exact hspace (List.mem_takeWhile_imp (hwhole.symm ▸ hc))
  rw [List.takeWhile_append, if_neg hshorter]

/-- What is not dropped stops the dropping, whatever stands behind it. -/
theorem dropWhile_append_of_exists {α : Type} {dropped : α → Bool} {t : List α}
    (hkeep : ∃ c ∈ t, dropped c = false) (rest : List α) :
    (t ++ rest).dropWhile dropped = t.dropWhile dropped ++ rest := by
  have hstart : (t.dropWhile dropped).isEmpty = false := by
    rw [Bool.eq_false_iff, ne_eq, List.isEmpty_iff, List.dropWhile_eq_nil_iff]
    obtain ⟨c, hc, hkept⟩ := hkeep
    exact fun hall => Bool.eq_false_iff.mp hkept (hall c hc)
  rw [List.dropWhile_append, hstart]
  rfl

theorem trimStart_append {t : Text} (hkeep : isBlank t = false) (rest : Text) :
    trimStart (t ++ rest) = trimStart t ++ rest := by
  obtain ⟨c, hc, hspace⟩ := List.all_eq_false.mp hkeep
  exact dropWhile_append_of_exists ⟨c, hc, Bool.eq_false_iff.mpr hspace⟩ rest

theorem trimStart_append_cons {c : Char} (hspace : isSpace c = false) (t rest : Text) :
    trimStart (t ++ c :: rest) = trimStart t ++ c :: rest := by
  have hstop : (c :: rest).dropWhile isSpace = c :: rest :=
    List.dropWhile_cons_of_neg (Bool.eq_false_iff.mp hspace)
  rw [trimStart, List.dropWhile_append, hstop]
  split
  next hall => rw [trimStart, List.isEmpty_iff.mp hall, List.nil_append]
  next => rfl

theorem trimEnd_append_cons {c : Char} (hspace : isSpace c = false) (t rest : Text) :
    trimEnd (t ++ c :: rest) = t ++ c :: trimEnd rest := by
  simp only [trimEnd_eq_rdropWhile]
  induction rest using List.reverseRecOn with
  | nil => exact List.rdropWhile_concat_neg _ _ _ (by simp [hspace])
  | append_singleton rest d ih =>
      rw [← List.cons_append, ← List.append_assoc, List.rdropWhile_concat, List.rdropWhile_concat]
      split
      · exact ih
      · rw [List.append_assoc, List.cons_append]

/-- White space at the end does not matter to what is trimmed there. -/
theorem trimEnd_append_blank {space : Text} (hblank : isBlank space = true) (t : Text) :
    trimEnd (t ++ space) = trimEnd t := by
  rw [trimEnd, List.reverse_append, List.dropWhile_append_of_pos, ← trimEnd]
  exact fun c hc => isBlank_iff.mp hblank c (List.mem_reverse.mp hc)

theorem trim_trimEnd (t : Text) : trim (trimEnd t) = trim t := by
  obtain ⟨space, hblank, ht⟩ := exists_eq_trimEnd_append t
  cases hkeep : isBlank (trimEnd t) with
  | true =>
      have hall : isBlank t = true := by
        rw [ht, isBlank, List.all_append, ← isBlank, hkeep, ← isBlank, hblank, Bool.and_self]
      rw [trim_of_isBlank hkeep, trim_of_isBlank hall]
  | false =>
      have hstart := trimStart_append hkeep space
      rw [← ht] at hstart
      rw [trim, trim, hstart, trimEnd_append_blank hblank]

end InlineEval.Text
