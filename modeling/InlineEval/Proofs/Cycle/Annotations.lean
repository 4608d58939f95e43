import InlineEval.Proofs.Annotation.Placement
import InlineEval.Proofs.Cycle.Course
import InlineEval.Proofs.Listing

/-! # The annotations of a cycle

Each turn shows its annotations inside its own segment. The segments ascend, so
the annotations of a cycle do, and the listing of the same text shows all of
them.
-/

namespace InlineEval

open Text

/-- Annotations that fit the document they are shown beside. -/
structure Annotation.Fit (settings : Settings) (doc : Document) (annotations : List Annotation) :
    Prop where
  ascending : annotations.Pairwise fun earlier later => earlier.line ≤ later.line
  inside : ∀ note ∈ annotations, note.line < doc.length
  /-- The listing takes all of them, in their order. -/
  listed : Listing.shown doc annotations = annotations
  rendered : ∀ (width : Text → Nat) (colour : Bool), ∀ note ∈ annotations, ∃ rendered,
    (Listing.renderLines width colour doc annotations)[note.line]? = some rendered ∧
      paint note.text note.style colour <:+: rendered
  settled : ∀ note ∈ annotations, note.style ≠ .waiting ∧ note.style ≠ .threading
  explicit_marked : settings.mode = .explicit → ∀ note ∈ annotations, note.style ≠ .performance →
    ∃ line, doc.line? note.line = some line ∧ settings.markers.marks line = true
  /-- Times aside, no line carries two annotations in explicit mode. -/
  explicit_single : settings.mode = .explicit →
    (annotations.filter fun note => note.style ≠ .performance).Pairwise
      fun earlier later => earlier.line < later.line
  auto_last : settings.mode = .auto → ∀ note ∈ annotations,
    ∃ segment ∈ doc.segments settings.mode settings.markers, note.line = segment.last

namespace Cycle

namespace Turn

variable (frame : Frame) {turn : Turn}

/-- A turn shows what is placed for its segment, and perhaps its time. -/
theorem notes_eq_append (hrange : turn.segment.first ≤ turn.segment.last) :
    ∃ placed times, turn.notes frame = placed ++ times ∧
      Annotation.Placed frame.settings.mode turn.segment frame.marked placed ∧
      ∀ note ∈ times, note = .timing turn.segment.last turn.answer.elapsed := by
  have hproduced := turn.produced_eq_ok frame hrange
  unfold produced at hproduced
  cases hplace : Annotation.place frame.settings.mode turn.answer.outcome turn.segment
      frame.marked with
  | error cause => simp [hplace, Except.map] at hproduced
  | ok placed =>
      have hplaced := Annotation.place_placed hrange hplace
      simp only [hplace, Except.map, Except.ok.injEq] at hproduced
      rw [← hproduced]
      split
      next htimed => exact ⟨placed, [_], rfl, hplaced, fun note => List.mem_singleton.mp⟩
      next huntimed => exact ⟨placed, [], (List.append_nil _).symm, hplaced, by simp⟩

theorem contains_of_mem_notes (hrange : turn.segment.first ≤ turn.segment.last)
    {note : Annotation} (hnote : note ∈ turn.notes frame) :
    turn.segment.contains note.line = true := by
  obtain ⟨placed, times, heq, hplaced, htimes⟩ := notes_eq_append frame hrange
  rw [heq] at hnote
  rcases List.mem_append.mp hnote with hnote | hnote
  · exact hplaced.inside note hnote
  · rw [htimes note hnote]
    exact Segment.contains_iff.mpr ⟨hrange, Nat.le_refl _⟩

theorem notes_ascending (hrange : turn.segment.first ≤ turn.segment.last) :
    (turn.notes frame).Pairwise fun earlier later => earlier.line ≤ later.line := by
  obtain ⟨placed, times, heq, hplaced, htimes⟩ := notes_eq_append frame hrange
  rw [heq]
  -- The time stands on the last line, which no other annotation is behind.
  refine List.pairwise_append.mpr ⟨hplaced.ascending, ?_, ?_⟩
  · refine List.pairwise_of_forall_mem_list ?_
    intro earlier hearlier later hlater
    rw [htimes earlier hearlier, htimes later hlater]
  · intro earlier hearlier later hlater
    rw [htimes later hlater]
    exact (Segment.contains_iff.mp (hplaced.inside earlier hearlier)).2

theorem settled_of_mem_notes (hrange : turn.segment.first ≤ turn.segment.last)
    {note : Annotation} (hnote : note ∈ turn.notes frame) :
    note.style ≠ .waiting ∧ note.style ≠ .threading := by
  obtain ⟨placed, times, heq, hplaced, htimes⟩ := notes_eq_append frame hrange
  rw [heq] at hnote
  rcases List.mem_append.mp hnote with hnote | hnote
  · rcases hplaced.shown note hnote with hstyle | hstyle <;> simp [hstyle]
  · simp [htimes note hnote, Annotation.timing]

/-- Its time aside, a turn shows what is placed for its segment. -/
theorem placed_filter_notes (hrange : turn.segment.first ≤ turn.segment.last) :
    Annotation.Placed frame.settings.mode turn.segment frame.marked
      ((turn.notes frame).filter fun note => note.style ≠ .performance) := by
  obtain ⟨placed, times, heq, hplaced, htimes⟩ := notes_eq_append frame hrange
  have hkept : (placed.filter fun note => note.style ≠ .performance) = placed := by
    apply List.filter_eq_self.mpr
    intro note hnote
    rcases hplaced.shown note hnote with hstyle | hstyle <;> simp [hstyle]
  have hdropped : (times.filter fun note => note.style ≠ .performance) = [] := by
    apply List.filter_eq_nil_iff.mpr
    intro note hnote
    simp [htimes note hnote, Annotation.timing]
  rw [heq, List.filter_append, hkept, hdropped, List.append_nil]
  exact hplaced

theorem line_eq_last_of_mem_notes (hrange : turn.segment.first ≤ turn.segment.last)
    (hauto : frame.settings.mode = .auto) {note : Annotation} (hnote : note ∈ turn.notes frame) :
    note.line = turn.segment.last := by
  obtain ⟨placed, times, heq, hplaced, htimes⟩ := notes_eq_append frame hrange
  rw [heq] at hnote
  rcases List.mem_append.mp hnote with hnote | hnote
  · exact hplaced.auto_lines hauto note hnote
  · rw [htimes note hnote]
    rfl

end Turn

variable {answerer : Answerer} {settings : Settings} {text : Text}

/-- What turns show inside their segments comes in the order of the turns. -/
theorem flatMap_courseOf_pairwise {shows : Turn → List Annotation} {R : Nat → Nat → Prop}
    (hR : ∀ i j, i < j → R i j)
    (hinside : ∀ turn ∈ courseOf answerer settings text, ∀ note ∈ shows turn,
      turn.segment.contains note.line = true)
    (hwithin : ∀ turn ∈ courseOf answerer settings text,
      (shows turn).Pairwise fun earlier later => R earlier.line later.line) :
    ((courseOf answerer settings text).flatMap shows).Pairwise
      fun earlier later => R earlier.line later.line := by
  refine List.pairwise_flatMap.mpr ⟨hwithin, ?_⟩
  refine (List.pairwise_map.mp courseOf_ascending).imp_of_mem ?_
  intro earlier later hearlier hlater hbefore note hnote other hother
  have hnote := Segment.contains_iff.mp (hinside earlier hearlier note hnote)
  have hother := Segment.contains_iff.mp (hinside later hlater other hother)
  exact hR _ _ (by omega)

/-- The annotations that a cycle completes with. -/
def annotationsOf (answerer : Answerer) (settings : Settings) (text : Text) : List Annotation :=
  (courseOf answerer settings text).flatMap (Turn.notes (frameOf settings text))

theorem first_le_last_of_mem_courseOf {turn : Turn}
    (hturn : turn ∈ courseOf answerer settings text) :
    turn.segment.first ≤ turn.segment.last :=
  (standsIn_of_mem_courseOf hturn).first_le_last

theorem annotationsOf_ascending (answerer : Answerer) (settings : Settings) (text : Text) :
    (annotationsOf answerer settings text).Pairwise
      fun earlier later => earlier.line ≤ later.line := by
  apply flatMap_courseOf_pairwise (fun _ _ => Nat.le_of_lt)
  · intro turn hturn note hnote
    exact Turn.contains_of_mem_notes _ (first_le_last_of_mem_courseOf hturn) hnote
  · intro turn hturn
    exact Turn.notes_ascending _ (first_le_last_of_mem_courseOf hturn)

theorem line_lt_of_mem_annotationsOf {note : Annotation}
    (hnote : note ∈ annotationsOf answerer settings text) :
    note.line < (Document.ofText text).length := by
  obtain ⟨turn, hturn, hnote⟩ := List.mem_flatMap.mp hnote
  have hstands := standsIn_of_mem_courseOf hturn
  have hcontains := Segment.contains_iff.mp
    (Turn.contains_of_mem_notes _ hstands.first_le_last hnote)
  have hlast := hstands.last_lt
  omega

/-- In explicit mode, what is shown beside times stands on marked lines, on
each of them at most once. -/
theorem explicit_annotationsOf (hmode : settings.mode = .explicit) :
    let placed := (annotationsOf answerer settings text).filter fun note =>
      note.style ≠ .performance
    (∀ note ∈ placed, note.line ∈ (Document.ofText text).marked settings.markers) ∧
      placed.Pairwise fun earlier later => earlier.line < later.line := by
  have hplaced : ∀ turn ∈ courseOf answerer settings text,
      Annotation.Placed settings.mode turn.segment
        ((Document.ofText text).marked settings.markers)
        ((turn.notes (frameOf settings text)).filter fun note => note.style ≠ .performance) :=
    fun turn hturn =>
      Turn.placed_filter_notes (frameOf settings text) (first_le_last_of_mem_courseOf hturn)
  intro placed
  have hturns : placed = (courseOf answerer settings text).flatMap fun turn =>
      (turn.notes (frameOf settings text)).filter fun note => note.style ≠ .performance :=
    List.filter_flatMap
  rw [hturns]
  constructor
  · intro note hnote
    obtain ⟨turn, hturn, hnote⟩ := List.mem_flatMap.mp hnote
    exact (hplaced turn hturn).explicit_marked hmode hnote
  · apply flatMap_courseOf_pairwise (fun _ _ hlt => hlt)
    · intro turn hturn note hnote
      exact (hplaced turn hturn).inside note hnote
    · intro turn hturn
      exact (hplaced turn hturn).explicit_ascending hmode

theorem auto_annotationsOf (hmode : settings.mode = .auto) {note : Annotation}
    (hnote : note ∈ annotationsOf answerer settings text) :
    ∃ segment ∈ (Document.ofText text).segments settings.mode settings.markers,
      note.line = segment.last := by
  obtain ⟨turn, hturn, hnote⟩ := List.mem_flatMap.mp hnote
  refine ⟨turn.segment, ?_, ?_⟩
  · exact (segments_courseOf_sublist answerer settings text).subset (List.mem_map_of_mem hturn)
  · exact Turn.line_eq_last_of_mem_notes (frameOf settings text)
      (first_le_last_of_mem_courseOf hturn) hmode hnote

/-- A cycle always completes, and its annotations fit the document. -/
theorem annotations_fit (answerer : Answerer) (settings : Settings) (text : Text) :
    ∃ annotations, (run answerer (ofText settings text)).ending = .ok annotations ∧
      Annotation.Fit settings (Document.ofText text) annotations := by
  have hascending := annotationsOf_ascending answerer settings text
  have hinside : ∀ note ∈ annotationsOf answerer settings text,
      note.line < (Document.ofText text).length :=
    fun note => line_lt_of_mem_annotationsOf
  refine ⟨annotationsOf answerer settings text, ?_, ?_⟩
  · rw [run_ofText]
    rfl
  · exact
      { ascending := hascending
        inside := hinside
        listed := by
          rw [Listing.shown_eq_filter _ hascending, List.filter_eq_self]
          exact fun note hnote => decide_eq_true (hinside note hnote)
        rendered := fun width colour note hnote =>
          Listing.paint_infix_renderLines width colour hnote (hinside note hnote)
        settled := by
          intro note hnote
          obtain ⟨turn, hturn, hnote⟩ := List.mem_flatMap.mp hnote
          exact Turn.settled_of_mem_notes _ (first_le_last_of_mem_courseOf hturn) hnote
        explicit_marked := by
          intro hmode note hnote hstyle
          have hkept : note ∈ (annotationsOf answerer settings text).filter
              fun note => note.style ≠ .performance :=
            List.mem_filter.mpr ⟨hnote, decide_eq_true hstyle⟩
          exact Document.mem_marked.mp ((explicit_annotationsOf hmode).1 note hkept)
        explicit_single := fun hmode => (explicit_annotationsOf hmode).2
        auto_last := fun hmode note => auto_annotationsOf hmode }

/-- A marked line shows its variable and then the time of its segment. -/
theorem annotations_fit_with_time :
    let answerer : Answerer := .ofFunction fun _ =>
      ⟨{ Outcome.silent with bindings := [("x".toList, "1".toList)] }, 7⟩
    let settings := { Settings.default with showTimings := true }
    let text := "\nx = 1 # ?".toList
    let annotations : List Annotation := [.value 1 " // x: 1".toList, .timing 1 7]
    (run answerer (ofText settings text)).ending = .ok annotations ∧
      Annotation.Fit settings (Document.ofText text) annotations := by
  intro answerer settings text annotations
  have hending : (run answerer (ofText settings text)).ending = .ok annotations := by decide
  obtain ⟨found, hfound, hfit⟩ := annotations_fit answerer settings text
  rw [hending, Except.ok.injEq] at hfound
  rw [← hfound] at hfit
  exact ⟨hending, hfit⟩

end Cycle

end InlineEval
