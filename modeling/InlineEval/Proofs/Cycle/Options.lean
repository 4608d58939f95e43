import InlineEval.Proofs.Cycle.EditsBelow

/-! # Options that steer no cycle

Mode and markers decide which segments a cycle calls for and where it shows
something. The other options are for those who watch: whether a segment that
starts is marked as waiting, how long the pauses are, and whether times are
shown. Whatever they are, the calls are the same and so is all that is shown
beside the times.
-/

namespace InlineEval.Cycle

open Text

/-! ## What is told of a cycle -/

/-- The story of a run: the segments that had their turn, each with what it
showed. -/
structure Run.Tells (settings : Settings) (text : Text) (run : Run)
    (story : List (Segment × List Annotation)) : Prop where
  unmarked : settings.mode = .explicit →
    (∀ line ∈ (Document.ofText text).lines, settings.markers.marks line = false) → story = []
  segments : (settings.mode = .explicit →
      ∃ line ∈ (Document.ofText text).lines, settings.markers.marks line = true) →
    story.map Prod.fst = (Document.ofText text).segments settings.mode settings.markers
  /-- Each of them is called for once, in this order. -/
  calls : run.calls.map (fun call => (call.code, call.line)) =
    story.map fun entry => (entry.1.code, entry.1.last)
  /-- The start and the end of each turn are told before the next one starts. -/
  reports : run.reports = story.zipIdx.flatMap fun entry =>
    [announcement (frameOf settings text) entry.2 entry.1.1, .finished entry.1.1 entry.1.2]
  ending : run.ending = .ok (story.flatMap Prod.snd)

variable {answerer : Answerer} {frame : Frame}

/-- What a turn adds to the story. -/
def Turn.entry (frame : Frame) (turn : Turn) : Segment × List Annotation :=
  (turn.segment, turn.notes frame)

theorem filterMap_progress?_eventsOf (begun : Bool) (turns : List Turn) :
    (eventsOf frame begun turns).filterMap Event.progress? = turns.flatMap fun turn =>
      [announcement frame turn.index turn.segment,
        .finished turn.segment (turn.notes frame)] := by
  induction turns generalizing begun with
  | nil => rfl
  | cons turn rest ih =>
      have hpause : (if begun && frame.settings.pause != 0 then
          [Event.waited frame.settings.pause] else []).filterMap Event.progress? = [] := by
        split <;> rfl
      rw [eventsOf, List.filterMap_append, ih, Turn.events, List.filterMap_append, hpause]
      rfl

/-- Turns are numbered as their segments are. -/
theorem zipIdx_map_turnsFrom {α : Type} (see : Turn → α) (k : Nat) (session : Session)
    (segments : List Segment) (n : Nat) :
    let turns := turnsFrom answerer k session ((segments.zipIdx n).map Prod.swap)
    (turns.map see).zipIdx n = turns.map fun turn => (see turn, turn.index) := by
  induction segments generalizing k session n with
  | nil => rfl
  | cons segment rest ih =>
      simp only [List.zipIdx_cons, List.map_cons, Prod.swap_prod_mk, turnsFrom, List.cons.injEq,
        true_and]
      exact ih _ _ _

theorem zipIdx_map_courseOf {α : Type} (see : Turn → α) (settings : Settings) (text : Text) :
    ((courseOf answerer settings text).map see).zipIdx =
      (courseOf answerer settings text).map fun turn => (see turn, turn.index) := by
  simp only [courseOf]
  split
  next hnone => rfl
  next hsome => exact zipIdx_map_turnsFrom see 0 .fresh _ 0

theorem run_tells (answerer : Answerer) (settings : Settings) (text : Text) :
    (run answerer (ofText settings text)).Tells settings text
      ((courseOf answerer settings text).map (Turn.entry (frameOf settings text))) where
  unmarked hmode hunmarked := by
    rw [courseOf, if_pos ⟨hmode, Document.isEmpty_marked_iff.mpr hunmarked⟩]
    rfl
  segments hmarked := by
    rw [List.map_map]
    exact map_segment_courseOf_of_marked hmarked
  calls := by
    rw [calls_run_ofText, List.map_map, List.map_map]
    exact List.map_congr_left fun turn hturn => Prod.ext_iff.mpr (call_of_mem_courseOf hturn)
  reports := by
    rw [run_ofText, Run.reports, filterMap_progress?_eventsOf, zipIdx_map_courseOf,
      List.flatMap_map]
    rfl
  ending := by
    rw [run_ofText, List.flatMap_map]
    rfl

/-! ## Two cycles of one text -/

/-- Its time aside, a turn shows what its gist does. -/
theorem Turn.filter_notes (frame : Frame) {turn : Turn}
    (hrange : turn.segment.first ≤ turn.segment.last) :
    (turn.notes frame).filter (fun note => note.style ≠ .performance) =
      shownFor frame turn.gist := by
  obtain ⟨placed, hplace⟩ : ∃ placed, Annotation.place frame.settings.mode turn.answer.outcome
      turn.segment frame.marked = .ok placed := Annotation.place_ok hrange
  have hkept : (placed.filter fun note => note.style ≠ .performance) = placed := by
    apply List.filter_eq_self.mpr
    have hplaced := Annotation.place_placed hrange hplace
    intro note hnote
    rcases hplaced.shown note hnote with hstyle | hstyle <;> simp [hstyle]
  have hshown : shownFor frame turn.gist = placed := by
    rw [shownFor, Turn.gist, hplace]
    rfl
  have htimed : turn.notes frame =
      if frame.settings.showTimings && turn.answer.outcome.success then
        placed ++ [.timing turn.segment.last turn.answer.elapsed] else placed := by
    rw [notes, produced, hplace]
    rfl
  rw [hshown, htimed]
  split
  next => rw [List.filter_append, hkept]; exact List.append_nil placed
  next => exact hkept

variable {f : Call → Outcome} {first second : Answerer} {settings other : Settings}

theorem map_gist_courseOf (hfirst : ∀ k call, (first k call).outcome = f call)
    (hsecond : ∀ k call, (second k call).outcome = f call) (hmode : settings.mode = other.mode)
    (hmarkers : settings.markers = other.markers) (text : Text) :
    (courseOf first settings text).map Turn.gist =
      (courseOf second other text).map Turn.gist := by
  simp only [courseOf, hmode, hmarkers]
  split
  next hnone => rfl
  next hsome =>
    exact map_gist_turnsFrom (fun k j call => (hfirst k call).trans (hsecond j call).symm) _ _ _ _

theorem shownFor_frameOf_congr (hmode : settings.mode = other.mode)
    (hmarkers : settings.markers = other.markers) (text : Text) :
    shownFor (frameOf settings text) = shownFor (frameOf other text) := by
  funext gist
  simp only [shownFor, frameOf, hmode, hmarkers]

/-- What a cycle shows beside times, by the gists of its turns. -/
theorem filter_story (answerer : Answerer) (settings : Settings) (text : Text) :
    (((courseOf answerer settings text).map (Turn.entry (frameOf settings text))).flatMap
        Prod.snd).filter (fun note => note.style ≠ .performance) =
      ((courseOf answerer settings text).map Turn.gist).flatMap
        (shownFor (frameOf settings text)) := by
  rw [List.flatMap_map, List.filter_flatMap, List.flatMap_map]
  exact List.flatMap_congr fun turn hturn =>
    Turn.filter_notes _ (first_le_last_of_mem_courseOf hturn)

/-- Two settings with the same mode and markers make the same calls, and show
the same beside times, if equal calls have equal outcomes. Each of the two
cycles tells of its turns one by one, and what it tells is what it shows. -/
theorem options_steer_no_cycle (hfirst : ∀ k call, (first k call).outcome = f call)
    (hsecond : ∀ k call, (second k call).outcome = f call) (hmode : settings.mode = other.mode)
    (hmarkers : settings.markers = other.markers) (text : Text) :
    let one := run first (ofText settings text)
    let two := run second (ofText other text)
    one.calls = two.calls ∧
      ∃ story story', one.Tells settings text story ∧ two.Tells other text story' ∧
        (story.flatMap Prod.snd).filter (fun note => note.style ≠ .performance) =
          (story'.flatMap Prod.snd).filter (fun note => note.style ≠ .performance) := by
  intro one two
  have hgists := map_gist_courseOf hfirst hsecond hmode hmarkers text
  have hcalls : ∀ (answerer : Answerer) (settings : Settings),
      (run answerer (ofText settings text)).calls =
        ((courseOf answerer settings text).map Turn.gist).map Gist.call := by
    intro answerer settings
    rw [calls_run_ofText, List.map_map]
    rfl
  refine ⟨?_, _, _, run_tells first settings text, run_tells second other text, ?_⟩
  · rw [hcalls, hcalls, hgists]
  · rw [filter_story, filter_story, hgists, shownFor_frameOf_congr hmode hmarkers]

/-- A pause, times and no waiting sign, beside the settings by default; the
segment in the middle fails. -/
theorem options_steer_no_cycle_with_times :
    let f : Call → Outcome := fun call =>
      if call.line = 1 then .failure "Name Error: boom".toList
      else { Outcome.silent with bindings := [("a".toList, "1".toList)] }
    let first : Answerer := fun _ call => ⟨f call, 0⟩
    let second : Answerer := fun k call => ⟨f call, k⟩
    let other := { Settings.default with pause := 5, showWaiting := false, showTimings := true }
    let text := "a = 1 # ?\nboom() # ?\nb = a # ?".toList
    let one := run first (ofText .default text)
    let two := run second (ofText other text)
    one.calls = two.calls ∧ one.calls.length = 3 ∧
      two.events[3]? = some (.waited 5) ∧
      two.ending = .ok [.value 0 " // a: 1".toList, .timing 0 0,
        .error 1 "Name Error: boom".toList, .value 2 " // a: 1".toList, .timing 2 2] ∧
      ∃ story story', one.Tells .default text story ∧ two.Tells other text story' ∧
        (story.flatMap Prod.snd).filter (fun note => note.style ≠ .performance) =
          (story'.flatMap Prod.snd).filter (fun note => note.style ≠ .performance) := by
  intro f first second other text one two
  have hfirst : ∀ k call, (first k call).outcome = f call := fun _ _ => rfl
  have hsecond : ∀ k call, (second k call).outcome = f call := fun _ _ => rfl
  have hmode : Settings.default.mode = other.mode := rfl
  have hmarkers : Settings.default.markers = other.markers := rfl
  obtain ⟨hcalls, hstory⟩ := options_steer_no_cycle hfirst hsecond hmode hmarkers text
  exact ⟨hcalls, by decide, by decide, by decide, hstory⟩

end InlineEval.Cycle
