import InlineEval.Proofs.Annotation.Placement

/-! # Which lines are annotated

A marked line is annotated exactly if the outcome has something of the kind it
asks for. A failure is told once. In auto mode whatever there is to show
stands on the last line, the kinds in a fixed order.
-/

namespace InlineEval

open Text

theorem Bindings.ne_nil_of_get? {bindings : Bindings} {name value : Text}
    (hvalue : bindings.get? name = some value) : bindings ≠ [] := by
  rintro rfl
  cases hvalue

/-- There is something to show on a line of this kind; `atEnd` tells the last
line of a segment, where an expression may show its own value. -/
def Outcome.offers (outcome : Outcome) (atEnd : Bool) : LineKind → Bool
  | .expression => !outcome.bindings.isEmpty || (atEnd && outcome.expression.isSome)
  | .printCall => !outcome.prints.isEmpty
  | .other => !outcome.bindings.isEmpty

namespace Segment

variable {segment : Segment} {i : Nat} {text : Text}

theorem line?_eq_some_iff :
    segment.line? i = some text ↔ (i, text) ∈ segment.lines ∧ i ≤ segment.last := by
  rw [lines_eq, mem_numberedFrom, line?]
  split
  next houtside =>
    constructor
    · intro hline
      cases hline
    · rintro ⟨⟨hfirst, -⟩, hlast⟩
      omega
  next hinside =>
    constructor
    · intro hline
      exact ⟨⟨by omega, hline⟩, by omega⟩
    · rintro ⟨⟨-, hline⟩, -⟩
      exact hline

/-- A segment that has as many texts as its range has lines gives one to each. -/
theorem exists_mem_lines (hlength : segment.texts.length = segment.last - segment.first + 1)
    (hinside : segment.contains i = true) : ∃ text, (i, text) ∈ segment.lines := by
  obtain ⟨hfirst, hlast⟩ := contains_iff.mp hinside
  have hi : i - segment.first < segment.texts.length := by omega
  exact ⟨segment.texts[i - segment.first],
    mem_numberedFrom.mpr ⟨hfirst, List.getElem?_eq_getElem hi⟩⟩

end Segment

namespace Annotation

variable {outcome : Outcome} {segment : Segment} {marked : LineSet}

theorem isSome_listingText? (bindings : Bindings) (count width : Nat) :
    (listingText? bindings count width).isSome = !bindings.isEmpty := by
  unfold listingText?
  split
  next hempty => rw [hempty]; rfl
  next hsome => rw [Bool.eq_false_iff.mpr hsome]; rfl

/-- An output of more lines than there are entries falls back to the last entry. -/
theorem isSome_lastPrinted? (outcome : Outcome) :
    (lastPrinted? outcome).isSome = !outcome.prints.isEmpty := by
  unfold lastPrinted?
  cases outcome.prints with
  | nil => cases outcome.output <;> rfl
  | cons entry rest => cases outcome.output <;> simp

theorem isSome_expressionText? (outcome : Outcome) (atEnd : Bool) (code : Text) :
    (expressionText? outcome atEnd code).isSome = outcome.offers atEnd .expression := by
  unfold expressionText? Outcome.offers
  cases hvalue : outcome.bindings.get? code with
  | some value =>
      have hne := Bindings.ne_nil_of_get? hvalue
      simp [hne]
  | none =>
      cases hexpression : outcome.expression with
      | none => simp [isSome_listingText?]
      | some value => cases atEnd <;> simp [isSome_listingText?]

theorem isSome_otherText? (outcome : Outcome) (atEnd : Bool) (code : Text) :
    (otherText? outcome code).isSome = outcome.offers atEnd .other := by
  unfold otherText? Outcome.offers
  split
  next name value hbound =>
    obtain ⟨⟨left, right⟩, -, hvalue⟩ := Option.bind_eq_some_iff.mp hbound
    obtain ⟨found, hfound, -⟩ := Option.map_eq_some_iff.mp hvalue
    have hne := Bindings.ne_nil_of_get? hfound
    simp [hne]
  next => exact isSome_listingText? _ _ _

/-- No fallback loses a line for which there is something to show. -/
theorem isSome_explicitText? (outcome : Outcome) (atEnd : Bool) (text : Text) :
    (explicitText? outcome atEnd text).isSome =
      outcome.offers atEnd (LineKind.ofLine text) := by
  unfold explicitText?
  cases LineKind.ofLine text with
  | expression => exact isSome_expressionText? outcome atEnd (cleanLine text)
  | printCall =>
      rw [Option.isSome_map]
      exact isSome_lastPrinted? outcome
  | other => exact isSome_otherText? outcome atEnd (cleanLine text)

/-- What is shown for an outcome, on which lines and in which order. -/
inductive Shown (outcome : Outcome) (segment : Segment) (marked : LineSet) :
    Mode → List Annotation → Prop
  /-- After a success a marked line is annotated if there is something to show on it. -/
  | values {notes : List Annotation} (hsuccess : outcome.errorMessage = none)
      (hstyle : ∀ note ∈ notes, note.style = .value)
      (hascending : notes.Pairwise fun earlier later => earlier.line < later.line)
      (hinside : ∀ note ∈ notes, segment.contains note.line = true)
      (hlines : ∀ i, segment.contains i = true → ∃ text, (i, text) ∈ segment.lines ∧
        (i ∈ notes.map line ↔ i ∈ marked ∧
          outcome.offers (i == segment.last) (LineKind.ofLine text) = true)) :
      Shown outcome segment marked .explicit notes
  /-- A failure stands on the first of the marked lines. -/
  | failed {i : Nat} {message : Text} (hfailed : outcome.errorMessage = some message)
      (hmarked : i ∈ marked) (hinside : segment.contains i = true)
      (hleast : ∀ j ∈ marked, segment.contains j = true → i ≤ j) :
      Shown outcome segment marked .explicit [error i message]
  | untold {message : Text} (hfailed : outcome.errorMessage = some message)
      (hunmarked : ∀ i ∈ marked, segment.contains i = false) :
      Shown outcome segment marked .explicit []
  | autoFailed {message : Text} (hfailed : outcome.errorMessage = some message) :
      Shown outcome segment marked .auto [error segment.last message]
  /-- Latest variables, expression and output, as far as there are any. -/
  | autoValues {latest expression output : List Text} (hsuccess : outcome.errorMessage = none)
      (hlatest : latest = if outcome.bindings = [] then []
        else [remarkText (listing outcome.bindings 5 50)])
      (hexpression : expression = outcome.expression.toList.map valueText)
      (houtput : output = outcome.output.toList.map printText) :
      Shown outcome segment marked .auto
        ((latest ++ expression ++ output).map (value segment.last))

/-- Annotations that are made for some of several lines, each on its own line. -/
theorem mem_map_line_filterMap {make : Nat → Option Annotation}
    (hline : ∀ i note, make i = some note → note.line = i) {lines : List Nat} {i : Nat} :
    i ∈ (lines.filterMap make).map line ↔ i ∈ lines ∧ (make i).isSome = true := by
  simp only [List.mem_map, List.mem_filterMap, Option.isSome_iff_exists]
  constructor
  · rintro ⟨note, ⟨j, hj, hmake⟩, rfl⟩
    rw [hline j note hmake]
    exact ⟨hj, note, hmake⟩
  · rintro ⟨hi, note, hmake⟩
    exact ⟨note, ⟨i, hi, hmake⟩, hline i note hmake⟩

theorem isSome_valueOn {i : Nat} {text : Text} (hline : segment.line? i = some text) :
    (valueOn outcome segment i).isSome =
      outcome.offers (i == segment.last) (LineKind.ofLine text) := by
  rw [valueOn, hline, Option.bind_some, Option.isSome_map, isSome_explicitText?]

theorem mem_between_iff {i : Nat} : i ∈ marked.between segment.first segment.last ↔
    i ∈ marked ∧ segment.contains i = true := by
  rw [LineSet.mem_between, Segment.contains_iff]

theorem shown_values (hsuccess : outcome.errorMessage = none)
    (hlength : segment.texts.length = segment.last - segment.first + 1) :
    Shown outcome segment marked .explicit
      ((marked.between segment.first segment.last).filterMap (valueOn outcome segment)) := by
  have hsublist := map_line_filterMap_valueOn_sublist outcome segment
    (marked.between segment.first segment.last)
  refine .values hsuccess ?style ?ascending ?inside ?lines
  case style => exact fun note hnote => style_of_mem_filterMap_valueOn hnote
  case ascending =>
    exact List.pairwise_map.mp
      ((marked.between_ascending segment.first segment.last).sublist hsublist)
  case inside =>
    intro note hnote
    exact (mem_between_iff.mp (hsublist.subset (List.mem_map_of_mem hnote))).2
  case lines =>
    intro i hinside
    obtain ⟨text, hmem⟩ := Segment.exists_mem_lines hlength hinside
    have htext := Segment.line?_eq_some_iff.mpr ⟨hmem, (Segment.contains_iff.mp hinside).2⟩
    refine ⟨text, hmem, ?_⟩
    rw [mem_map_line_filterMap fun i note hnote => (valueOn_eq_some hnote).1, mem_between_iff,
      and_iff_left hinside, isSome_valueOn htext]

theorem shown_failure {message : Text} (hfailed : outcome.errorMessage = some message) :
    Shown outcome segment marked .explicit
      ((marked.between segment.first segment.last).head?.toList.map fun i => error i message) := by
  have hascending := marked.between_ascending segment.first segment.last
  cases hbetween : marked.between segment.first segment.last with
  | nil =>
      refine .untold hfailed fun i hi => Bool.eq_false_iff.mpr fun hinside => ?_
      have hnone := mem_between_iff.mpr ⟨hi, hinside⟩
      rw [hbetween] at hnone
      cases hnone
  | cons i rest =>
      have hmem {j : Nat} : j ∈ i :: rest ↔ j ∈ marked ∧ segment.contains j = true := by
        rw [← hbetween, mem_between_iff]
      obtain ⟨hmarked, hinside⟩ := hmem.mp List.mem_cons_self
      refine .failed hfailed hmarked hinside fun j hj hjinside => ?_
      rw [hbetween] at hascending
      rcases List.mem_cons.mp (hmem.mpr ⟨hj, hjinside⟩) with rfl | hrest
      · exact Nat.le_refl _
      · exact Nat.le_of_lt ((List.pairwise_cons.mp hascending).1 j hrest)

theorem auto_shown : Shown outcome segment marked .auto (auto outcome segment) := by
  unfold auto
  cases hmessage : outcome.errorMessage with
  | some message => exact .autoFailed hmessage
  | none =>
      refine .autoValues hmessage ?_ ?_ ?_
      · cases outcome.bindings <;> rfl
      · cases outcome.expression <;> rfl
      · cases outcome.output <;> rfl

/-- A segment with a text for each line of its range is annotated exactly where
there is something to show. -/
theorem place_shown (mode : Mode) (outcome : Outcome) (marked : LineSet)
    (hrange : segment.first ≤ segment.last)
    (hlength : segment.texts.length = segment.last - segment.first + 1) :
    ∃ notes, place mode outcome segment marked = .ok notes ∧
      Shown outcome segment marked mode notes := by
  obtain ⟨notes, hnotes⟩ : ∃ notes, place mode outcome segment marked = .ok notes :=
    place_ok hrange
  refine ⟨notes, hnotes, ?_⟩
  cases mode with
  | explicit =>
      rcases explicit_cases hnotes with ⟨message, hfailed, rfl⟩ | ⟨hsuccess, rfl⟩
      · exact shown_failure hfailed
      · exact shown_values hsuccess hlength
  | auto =>
      cases hnotes
      exact auto_shown

/-- The header shows the variable that the loop left, the call the last entry
of the print log, which is shorter than the output; line 9 is elsewhere. -/
theorem place_shown_in_loop :
    let segment : Segment := ⟨4, 6, "for n in xs:\n    print(n)\n    m = n".toList⟩
    let outcome : Outcome :=
      { Outcome.silent with
        bindings := [("n".toList, "8".toList)]
        output := some "7\n7\n8".toList
        prints := [⟨0, "7".toList⟩, ⟨1, "8".toList⟩] }
    let marked := LineSet.ofList [9, 5, 4]
    segment.first ≤ segment.last ∧
      segment.texts.length = segment.last - segment.first + 1 ∧
      ∃ notes, place .explicit outcome segment marked = .ok notes ∧
        notes = [value 4 " // n: 8".toList, value 5 " ▶ 8".toList] ∧
        Shown outcome segment marked .explicit notes := by
  intro segment outcome marked
  have hrange : segment.first ≤ segment.last := by decide
  have hlength : segment.texts.length = segment.last - segment.first + 1 := by decide
  obtain ⟨notes, hnotes, hshown⟩ := place_shown .explicit outcome marked hrange hlength
  have hvalues : place .explicit outcome segment marked =
      .ok [value 4 " // n: 8".toList, value 5 " ▶ 8".toList] := rfl
  exact ⟨hrange, hlength, notes, hnotes, Except.ok.inj (hnotes.symm.trans hvalues), hshown⟩

end Annotation

end InlineEval
