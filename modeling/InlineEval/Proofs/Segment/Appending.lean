import InlineEval.Proofs.Segment.Restart

/-! # More lines at the end

A document that grows at its end keeps its segments. Only the draft that is open
at the end may still take lines, and what it takes comes behind the lines that
it has, those held back among them. So the last segment grows, and all others
stay.
-/

namespace InlineEval

open Text

variable {mode : Mode} {markers : MarkerSet}

/-! ## A segment with more lines -/

namespace Segment

/-- No line is lost in a segment. A line that holds newlines counts as the lines
between them. -/
theorem texts_ofLines_eq_flatMap (i : Nat) {texts : List Text} (hne : texts ≠ []) :
    (ofLines i texts).texts = texts.flatMap (split '\n') :=
  split_joinLines_eq_flatMap hne

theorem lines_ofLines_prefix (i : Nat) {texts longer : List Text} (hne : texts ≠ [])
    (hlonger : texts <+: longer) : (ofLines i texts).lines <+: (ofLines i longer).lines := by
  obtain ⟨more, rfl⟩ := hlonger
  have hall := texts_ofLines_eq_flatMap i (List.append_ne_nil_of_left_ne_nil hne more)
  rw [List.flatMap_append, ← texts_ofLines_eq_flatMap i hne] at hall
  rw [lines_eq, lines_eq, hall]
  change _ <+: numberedFrom i _
  rw [numberedFrom_append]
  exact List.prefix_append _ _

end Segment

/-! ## What is open at the end -/

namespace Draft

/-- A draft keeps its lines when it takes another one. -/
theorem Takes.lines_prefix {draft next : Draft} {line : Text}
    (htakes : draft.Takes mode markers line next) : draft.lines <+: next.lines := by
  cases htakes with
  | held => exact List.prefix_rfl
  | unfinished | inside | decorated | indented =>
      change _ <+: draft.lines ++ draft.held ++ [line]
      rw [List.append_assoc]
      exact List.prefix_append _ _

end Draft

theorem OpenAt.readLines {open? : Option Draft} {i : Nat} (hopen : OpenAt mode markers i open?)
    (lines : List Text) :
    OpenAt mode markers (i + lines.length) (readLines mode markers open? i lines).2 := by
  induction lines generalizing open? i with
  | nil => exact hopen
  | cons line rest ih =>
      have hrest := ih (hopen.divideLine line)
      rwa [Nat.add_assoc, Nat.add_comm 1, ← List.length_cons] at hrest

/-- Whatever lines follow, the open draft makes the next segment, with all lines
that it has. -/
theorem exists_divideFrom_open (draft : Draft) (i : Nat) (lines : List Text) :
    ∃ texts rest, divideFrom mode markers (some draft) i lines =
        Segment.ofLines draft.start texts :: rest ∧ draft.lines <+: texts := by
  induction lines generalizing draft i with
  | nil => exact ⟨draft.lines, [], rfl, List.prefix_rfl⟩
  | cons line rest ih =>
      cases haccept : draft.accept mode markers line with
      | some next =>
          have htakes := Draft.accept_eq_some_iff.mp haccept
          obtain ⟨texts, later, hlater, hbegins⟩ := ih next (i + 1)
          refine ⟨texts, later, ?_, htakes.lines_prefix.trans hbegins⟩
          simp [divideFrom_cons, divideLine, haccept, hlater, htakes.start_eq]
      | none =>
          have hrefused : ∀ next ∈ (line :: rest).head?, draft.accept mode markers next = none := by
            simpa using haccept
          exact ⟨draft.lines, _, divideFrom_of_refused hrefused i, List.prefix_rfl⟩

/-! ## The document -/

/-- Lines that are appended to a document leave its segments as they are, but for
the last one, which keeps its place and its lines and may get further ones. -/
theorem divide_append (mode : Mode) (markers : MarkerSet) (lines appended : List Text) :
    divide mode markers lines = [] ∨
      ∃ kept last grown rest, divide mode markers lines = kept ++ [last] ∧
        divide mode markers (lines ++ appended) = kept ++ grown :: rest ∧
        grown.first = last.first ∧ last.lines <+: grown.lines := by
  obtain ⟨completed, open?, hread⟩ : ∃ completed open?,
      readLines mode markers none 0 lines = (completed, open?) := ⟨_, _, rfl⟩
  have hlines : divide mode markers lines = completed ++ open?.toList.map Draft.close := by
    rw [divide, divideFrom_eq_readLines, hread]
  have hmore : divide mode markers (lines ++ appended) =
      completed ++ divideFrom mode markers open? (0 + lines.length) appended := by
    rw [divide, divideFrom_append, hread]
  cases open? with
  | none =>
      -- The last segment is complete, and nothing can be added to it.
      rw [Option.toList_none, List.map_nil, List.append_nil] at hlines
      rcases List.eq_nil_or_concat completed with rfl | ⟨kept, last, rfl⟩
      · exact .inl hlines
      · rw [List.concat_eq_append] at hlines hmore
        rw [List.append_assoc] at hmore
        exact .inr ⟨kept, last, last, _, hlines, hmore, rfl, List.prefix_rfl⟩
  | some draft =>
      have hopen : OpenAt mode markers (0 + lines.length) (readLines mode markers none 0 lines).2 :=
        OpenAt.none.readLines lines
      rw [hread] at hopen
      have hne := (hopen draft rfl).1.sound.ne_nil
      obtain ⟨texts, rest, hrest, hbegins⟩ :=
        exists_divideFrom_open draft (0 + lines.length) appended
      rw [hrest] at hmore
      exact .inr ⟨completed, draft.close, Segment.ofLines draft.start texts, rest, hlines, hmore,
        rfl, Segment.lines_ofLines_prefix draft.start hne hbegins⟩

/-- A further clause takes the comment in front of it along. -/
example :
    let lines := ["a".toList, "if b:".toList, "    c".toList, "# d".toList]
    divide .auto .default lines = [⟨0, 0, "a".toList⟩, ⟨1, 2, "if b:\n    c".toList⟩] ∧
      divide .auto .default (lines ++ ["else:".toList, "    e".toList, "f".toList]) =
        [⟨0, 0, "a".toList⟩, ⟨1, 5, "if b:\n    c\n# d\nelse:\n    e".toList⟩,
          ⟨6, 6, "f".toList⟩] := by
  decide

end InlineEval
