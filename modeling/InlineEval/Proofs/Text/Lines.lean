import InlineEval.Text.Lines

/-! # Lines put together and taken apart

Joining lines and splitting at newlines are each other's inverse as long as no
line holds a newline, and the lines of several joined pieces are the lines of
the pieces one after another.
-/

namespace InlineEval.Text

/-! ## Cuts through a list -/

/-- A list, cut at one of its members. -/
theorem eq_take_append_cons {α : Type} {list : List α} {k : Nat} {a : α} (ha : list[k]? = some a) :
    list = list.take k ++ a :: list.drop (k + 1) := by
  obtain ⟨hk, rfl⟩ := List.getElem?_eq_some_iff.mp ha
  rw [← List.drop_eq_getElem_cons hk, List.take_append_drop]

/-- A member of a list that is put together from two parts stands in the first
part or in the second one. -/
theorem cases_of_append_eq {α : Type} {first second before after : List α} {a : α}
    (hcut : first ++ second = before ++ a :: after) :
    (∃ own, first = before ++ a :: own ∧ after = own ++ second) ∨
      ∃ between, before = first ++ between ∧ second = between ++ a :: after := by
  rcases List.append_eq_append_iff.mp hcut with ⟨between, hbefore, hsecond⟩ | ⟨own, hfirst, hmore⟩
  · exact .inr ⟨between, hbefore, hsecond⟩
  · cases own with
    | nil => exact .inr ⟨[], by simp [hfirst], by simp [hmore]⟩
    | cons b own =>
        cases hmore
        exact .inl ⟨own, hfirst, rfl⟩

/-- The first separator is where the text is split. -/
theorem splitOnce_eq_some_iff {separator : Char} {t left right : Text} :
    splitOnce separator t = some (left, right) ↔
      t = left ++ separator :: right ∧ separator ∉ left := by
  unfold splitOnce
  constructor
  · intro hsplit
    have hwhole : t.takeWhile (· ≠ separator) ++ t.dropWhile (· ≠ separator) = t :=
      List.takeWhile_append_dropWhile
    have hfirst := List.head?_dropWhile_not (· ≠ separator) t
    cases hrest : t.dropWhile (· ≠ separator) with
    | nil =>
        rw [hrest] at hsplit
        cases hsplit
    | cons c after =>
        rw [hrest] at hsplit hfirst hwhole
        cases hsplit
        obtain rfl : c = separator := by simpa using hfirst
        refine ⟨hwhole.symm, fun hmem => ?_⟩
        simpa using List.all_eq_true.mp List.all_takeWhile _ hmem
  · rintro ⟨rfl, hnot⟩
    have hleft : ∀ c ∈ left, decide (c ≠ separator) = true := by
      intro c hc
      simp only [ne_eq, decide_eq_true_eq]
      rintro rfl
      exact hnot hc
    rw [List.takeWhile_append_of_pos hleft, List.dropWhile_append_of_pos hleft]
    simp

/-! ## Pieces and lines -/

theorem split_eq_splitOn {α : Type} [DecidableEq α] (separator : α) (t : List α) :
    split separator t = t.splitOn separator := by
  induction t with
  | nil => rw [split_nil, List.splitOn_nil]
  | cons c rest ih =>
      rw [split_cons, ih, List.splitOn_cons_eq_if_modifyHead]
      cases hpieces : rest.splitOn separator with
      | nil => exact absurd hpieces (List.splitOn_ne_nil separator rest)
      | cons piece pieces => by_cases heq : c = separator <;> simp [splitStep, heq]

theorem split_of_not_mem {α : Type} [DecidableEq α] {separator : α} {t : List α}
    (hfree : separator ∉ t) : split separator t = [t] := by
  rw [split_eq_splitOn, List.splitOn_eq_singleton hfree]

theorem split_append_cons {α : Type} [DecidableEq α] (separator : α) (t u : List α) :
    split separator (t ++ separator :: u) = split separator t ++ split separator u := by
  simp only [split_eq_splitOn, List.splitOn_append_cons_self]

theorem length_split {α : Type} [DecidableEq α] (separator : α) (t : List α) :
    (split separator t).length = t.count separator + 1 := by
  induction t with
  | nil => rfl
  | cons c rest ih =>
      rw [split_cons]
      cases hpieces : split separator rest with
      | nil => exact absurd hpieces (split_ne_nil separator rest)
      | cons piece pieces =>
          rw [hpieces] at ih
          by_cases heq : c = separator
          · rw [splitStep, if_pos heq, heq, List.count_cons_self, List.length_cons, ih]
          · rw [splitStep, if_neg heq, List.count_cons_of_ne heq, ← ih]
            rfl

/-- A piece is made of what the text holds besides the separator. -/
theorem mem_of_mem_split {α : Type} [DecidableEq α] {separator c : α} {t piece : List α}
    (hpiece : piece ∈ split separator t) (hc : c ∈ piece) : c ∈ t ∧ c ≠ separator := by
  induction t generalizing piece with
  | nil =>
      rw [split_nil, List.mem_singleton] at hpiece
      simp [hpiece] at hc
  | cons d rest ih =>
      rw [split_cons] at hpiece
      cases hpieces : split separator rest with
      | nil => exact absurd hpieces (split_ne_nil separator rest)
      | cons first pieces =>
          rw [hpieces] at hpiece ih
          by_cases heq : d = separator
          · simp only [splitStep, heq, if_true] at hpiece
            rcases List.mem_cons.mp hpiece with rfl | hmem
            · cases hc
            · exact (ih hmem hc).imp_left (List.mem_cons_of_mem d)
          · simp only [splitStep, heq, if_false] at hpiece
            rcases List.mem_cons.mp hpiece with rfl | hmem
            · rcases List.mem_cons.mp hc with rfl | hc
              · exact ⟨List.mem_cons_self, heq⟩
              · exact (ih List.mem_cons_self hc).imp_left (List.mem_cons_of_mem d)
            · exact (ih (List.mem_cons_of_mem first hmem) hc).imp_left (List.mem_cons_of_mem d)

theorem not_mem_of_mem_split {α : Type} [DecidableEq α] {separator : α} {t piece : List α}
    (hpiece : piece ∈ split separator t) : separator ∉ piece :=
  fun hmem => (mem_of_mem_split hpiece hmem).2 rfl

theorem exists_mem_split {α : Type} [DecidableEq α] {separator c : α} {t : List α} (hc : c ∈ t)
    (hne : c ≠ separator) : ∃ piece ∈ split separator t, c ∈ piece := by
  induction t with
  | nil => cases hc
  | cons d rest ih =>
      rw [split_cons]
      cases hpieces : split separator rest with
      | nil => exact absurd hpieces (split_ne_nil separator rest)
      | cons first pieces =>
          rw [hpieces] at ih
          by_cases heq : d = separator
          · rw [splitStep, if_pos heq]
            have hrest : c ∈ rest := (List.mem_cons.mp hc).resolve_left (heq ▸ hne)
            obtain ⟨piece, hpiece, hmem⟩ := ih hrest
            exact ⟨piece, List.mem_cons_of_mem [] hpiece, hmem⟩
          · rw [splitStep, if_neg heq]
            rcases List.mem_cons.mp hc with rfl | hrest
            · exact ⟨c :: first, List.mem_cons_self, List.mem_cons_self⟩
            · obtain ⟨piece, hpiece, hmem⟩ := ih hrest
              rcases List.mem_cons.mp hpiece with rfl | hlater
              · exact ⟨d :: piece, List.mem_cons_self, List.mem_cons_of_mem d hmem⟩
              · exact ⟨piece, List.mem_cons_of_mem _ hlater, hmem⟩

theorem joinLines_cons {first : Text} {rest : List Text} (hne : rest ≠ []) :
    joinLines (first :: rest) = first ++ '\n' :: joinLines rest := by
  simp [joinLines, join, List.intercalate_cons_of_ne_nil hne]

theorem exists_joinLines_cons (first : Text) (rest : List Text) :
    ∃ behind, joinLines (first :: rest) = first ++ behind := by
  by_cases hne : rest = []
  · exact ⟨[], by simp [hne, joinLines, join]⟩
  · exact ⟨_, joinLines_cons hne⟩

theorem exists_joinLines_concat (lines : List Text) (last : Text) :
    ∃ before, joinLines (lines ++ [last]) = before ++ last := by
  induction lines with
  | nil => exact ⟨[], by simp [joinLines, join]⟩
  | cons first rest ih =>
      obtain ⟨before, hbefore⟩ := ih
      refine ⟨first ++ '\n' :: before, ?_⟩
      rw [List.cons_append, joinLines_cons (by simp), hbefore, List.append_assoc,
        List.cons_append]

/-- Joining loses no line and makes no new one. -/
theorem split_joinLines_eq_flatMap {pieces : List Text} (hne : pieces ≠ []) :
    split '\n' (joinLines pieces) = pieces.flatMap (split '\n') := by
  induction pieces with
  | nil => exact absurd rfl hne
  | cons first rest ih =>
      by_cases hrest : rest = []
      · simp [hrest, joinLines, join]
      · rw [joinLines_cons hrest, split_append_cons, ih hrest, List.flatMap_cons]

theorem split_joinLines {lines : List Text} (hne : lines ≠ [])
    (hfree : ∀ line ∈ lines, '\n' ∉ line) : split '\n' (joinLines lines) = lines := by
  rw [split_eq_splitOn]
  exact List.splitOn_intercalate '\n' hfree hne

/-- Lines that are each ended by a newline, with nothing behind the last one. -/
theorem split_flatMap_newline {lines : List Text} (hfree : ∀ line ∈ lines, '\n' ∉ line) :
    split '\n' (lines.flatMap (· ++ ['\n'])) = lines ++ [[]] := by
  induction lines with
  | nil => rfl
  | cons first rest ih =>
      obtain ⟨hfirst, hrest⟩ := List.forall_mem_cons.mp hfree
      rw [List.flatMap_cons, List.append_assoc, List.singleton_append, split_append_cons,
        split_of_not_mem hfirst, ih hrest]
      rfl

theorem not_mem_dropCarriageReturn {c : Char} {line : Text} (hline : c ∉ line) :
    c ∉ dropCarriageReturn line := by
  unfold dropCarriageReturn
  split
  · exact fun hmem => hline (List.dropLast_subset line hmem)
  · exact hline

/-! ## Lines of a stream -/

theorem endedLines_append (ended : List Text) {rest : List Text} (hrest : rest ≠ []) :
    endedLines (ended ++ rest) = ended.map dropCarriageReturn ++ endedLines rest := by
  induction ended with
  | nil => rfl
  | cons line later ih =>
      have hlater : later ++ rest ≠ [] := fun hnil => hrest (List.append_eq_nil_iff.mp hnil).2
      rw [List.cons_append, endedLines.eq_3 line _ hlater, ih, List.map_cons, List.cons_append]

/-- At a newline the lines of a stream come apart. -/
theorem lines_append_newline (t u : Text) :
    lines (t ++ '\n' :: u) = (split '\n' t).map dropCarriageReturn ++ lines u := by
  rw [lines, split_append_cons, endedLines_append _ (split_ne_nil '\n' u), lines]

/-- A text that holds no end of a line is the first line of a stream that
begins with it and a newline. -/
theorem lines_line_append {line : Text} (hnewline : '\n' ∉ line) (hreturn : '\r' ∉ line)
    (u : Text) : lines (line ++ '\n' :: u) = line :: lines u := by
  have hdrop : dropCarriageReturn line = line := by
    have hlast : endsWith '\r' line = false :=
      beq_eq_false_iff_ne.mpr fun hlast => hreturn (List.mem_of_getLast? hlast)
    rw [dropCarriageReturn, hlast]
    rfl
  rw [lines_append_newline, split_of_not_mem hnewline, List.map_singleton, hdrop,
    List.singleton_append]

/-- Lines that are each ended by a newline are the lines of the stream. -/
theorem lines_flatMap_newline {written : List Text}
    (hfree : ∀ line ∈ written, '\n' ∉ line ∧ '\r' ∉ line) :
    lines (written.flatMap (· ++ ['\n'])) = written := by
  induction written with
  | nil => rfl
  | cons line rest ih =>
      obtain ⟨⟨hnewline, hreturn⟩, hrest⟩ := List.forall_mem_cons.mp hfree
      rw [List.flatMap_cons, List.append_assoc, List.singleton_append,
        lines_line_append hnewline hreturn, ih hrest]

theorem dropCarriageReturn_subset (line : Text) : dropCarriageReturn line ⊆ line := by
  unfold dropCarriageReturn
  split
  · exact List.dropLast_subset line
  · exact List.Subset.refl line

theorem exists_of_mem_endedLines {pieces : List Text} {line : Text}
    (hline : line ∈ endedLines pieces) : ∃ piece ∈ pieces, line ⊆ piece := by
  induction pieces using endedLines.induct with
  | case1 => cases hline
  | case2 unended hempty =>
      rw [endedLines, if_pos hempty] at hline
      cases hline
  | case3 unended hnonempty =>
      rw [endedLines, if_neg hnonempty, List.mem_singleton] at hline
      exact ⟨unended, List.mem_cons_self, hline ▸ List.Subset.refl line⟩
  | case4 first rest hrest ih =>
      rw [endedLines.eq_3 first rest hrest] at hline
      rcases List.mem_cons.mp hline with rfl | hlater
      · exact ⟨first, List.mem_cons_self, dropCarriageReturn_subset first⟩
      · obtain ⟨piece, hpiece, hsubset⟩ := ih hlater
        exact ⟨piece, List.mem_cons_of_mem first hpiece, hsubset⟩

theorem isBlank_of_mem_lines {t line : Text} (hblank : isBlank t = true) (hline : line ∈ lines t) :
    isBlank line = true := by
  obtain ⟨piece, hpiece, hsubset⟩ := exists_of_mem_endedLines hline
  exact isBlank_iff.mpr fun c hc =>
    isBlank_iff.mp hblank c (mem_of_mem_split hpiece (hsubset hc)).1

theorem mem_dropCarriageReturn {c : Char} {line : Text} (hc : c ∈ line) (hne : c ≠ '\r') :
    c ∈ dropCarriageReturn line := by
  unfold dropCarriageReturn
  split
  next hends =>
    obtain ⟨kept, rfl⟩ := List.getLast?_eq_some_iff.mp (beq_iff_eq.mp hends)
    rw [List.dropLast_concat]
    exact (List.mem_append.mp hc).resolve_right fun hlast => hne (List.mem_singleton.mp hlast)
  next => exact hc

theorem exists_mem_endedLines {pieces : List Text} {piece : Text} {c : Char}
    (hpiece : piece ∈ pieces) (hc : c ∈ piece) (hne : c ≠ '\r') :
    ∃ line ∈ endedLines pieces, c ∈ line := by
  induction pieces using endedLines.induct with
  | case1 => cases hpiece
  | case2 unended hempty =>
      rw [List.mem_singleton.mp hpiece, List.isEmpty_iff.mp hempty] at hc
      cases hc
  | case3 unended hnonempty =>
      rw [endedLines, if_neg hnonempty]
      exact ⟨piece, hpiece, hc⟩
  | case4 first rest hrest ih =>
      rw [endedLines.eq_3 first rest hrest]
      rcases List.mem_cons.mp hpiece with rfl | hlater
      · exact ⟨_, List.mem_cons_self, mem_dropCarriageReturn hc hne⟩
      · obtain ⟨line, hline, hmem⟩ := ih hlater
        exact ⟨line, List.mem_cons_of_mem _ hline, hmem⟩

/-- Taking a text apart into lines loses white space only, so a text is blank
if all its lines are. -/
theorem isBlank_iff_lines {t : Text} : isBlank t = true ↔ ∀ line ∈ lines t, isBlank line = true := by
  refine ⟨fun hblank line => isBlank_of_mem_lines hblank, fun hlines => isBlank_iff.mpr ?_⟩
  intro c hc
  cases hspace : isSpace c with
  | true => rfl
  | false =>
      have hnewline : c ≠ '\n' := by
        rintro rfl
        cases hspace
      have hreturn : c ≠ '\r' := by
        rintro rfl
        cases hspace
      obtain ⟨piece, hpiece, hmem⟩ := exists_mem_split hc hnewline
      obtain ⟨line, hline, hmem⟩ := exists_mem_endedLines hpiece hmem hreturn
      rw [← hspace]
      exact isBlank_iff.mp (hlines line hline) c hmem

/-- A text that is not blank has a line that is not. -/
theorem exists_line_not_blank {t : Text} (hkeep : isBlank t = false) :
    ∃ line ∈ lines t, isBlank line = false := by
  have hall : (lines t).all isBlank = false := by
    rw [Bool.eq_false_iff, ne_eq, List.all_eq_true, ← isBlank_iff_lines, hkeep]
    exact Bool.false_ne_true
  obtain ⟨line, hline, hblank⟩ := List.all_eq_false.mp hall
  exact ⟨line, hline, Bool.eq_false_iff.mpr hblank⟩

end InlineEval.Text
