import InlineEval.Cycle.Run
import InlineEval.Proofs.Segment.Partition

/-! # The course of a cycle

A run of a cycle is a sequence of turns, one for each segment. In its turn a
segment is called for with the session that the turns before it left, and the
answer decides what the session becomes and which annotations are shown. All
that a run does can be read off its turns.
-/

namespace InlineEval.Cycle

/-- One segment's turn in a cycle. -/
structure Turn where
  /-- The number of the segment in the document. -/
  index : Nat
  segment : Segment
  call : Call
  answer : Answer

/-- The turns of numbered segments, from call number `k` and a session on. -/
def turnsFrom (answerer : Answerer) : Nat → Session → List (Nat × Segment) → List Turn
  | _, _, [] => []
  | k, session, (index, segment) :: rest =>
      let call := callFor session segment
      let answer := answerer k call
      ⟨index, segment, call, answer⟩ ::
        turnsFrom answerer (k + 1) (session.record segment answer.outcome) rest

namespace Turn

/-- What is shown for the segment, if it can be annotated. -/
def notes (frame : Frame) (turn : Turn) : List Annotation :=
  (produced frame turn.segment turn.answer).toOption.getD []

/-- What happens in a turn; `begun` tells that it is not the first one. -/
def events (frame : Frame) (begun : Bool) (turn : Turn) : List Event :=
  (if begun && frame.settings.pause != 0 then [.waited frame.settings.pause] else []) ++
    [.told (announcement frame turn.index turn.segment), .called turn.call turn.answer,
      .told (.finished turn.segment (turn.notes frame))]

end Turn

/-- What happens in several turns. -/
def eventsOf (frame : Frame) : Bool → List Turn → List Event
  | _, [] => []
  | begun, turn :: rest => turn.events frame begun ++ eventsOf frame true rest

/-- The session that several turns leave. -/
def sessionAfter (session : Session) (turns : List Turn) : Session :=
  turns.foldl (fun session turn => session.record turn.segment turn.answer.outcome) session

/-- What stays the same over the cycle of a text. -/
def frameOf (settings : Settings) (text : Text) : Frame :=
  let doc := Document.ofText text
  ⟨settings, doc.marked settings.markers,
    (doc.segments settings.mode settings.markers).length⟩

/-- The turns in the cycle of a text. No segment has its turn if a cycle in
explicit mode finds no marked line. -/
def courseOf (answerer : Answerer) (settings : Settings) (text : Text) : List Turn :=
  let doc := Document.ofText text
  if settings.mode = .explicit ∧ (doc.marked settings.markers).isEmpty then []
  else
    turnsFrom answerer 0 .fresh
      ((doc.segments settings.mode settings.markers).zipIdx.map Prod.swap)

/-- The answer that an event brings. -/
def Event.answer? : Event → Option Answer
  | called _ answer => some answer
  | _ => none

/-- The answers of a run, in order. -/
def Run.answers (run : Run) : List Answer := run.events.filterMap Event.answer?

/-! ## A run takes its turns -/

theorem Turn.produced_eq_ok (frame : Frame) {turn : Turn}
    (hrange : turn.segment.first ≤ turn.segment.last) :
    produced frame turn.segment turn.answer = .ok (turn.notes frame) := by
  have hplace : ∃ placed, Annotation.place frame.settings.mode turn.answer.outcome turn.segment
      frame.marked = .ok placed := Annotation.place_ok hrange
  obtain ⟨placed, hplaced⟩ := hplace
  simp [notes, produced, hplaced, Except.map, Except.toOption]

/-- The turn of the first of several segments, and the run of the others. -/
theorem runFrom_ofSegments_cons (answerer : Answerer) (frame : Frame) (k : Nat)
    (past : Progressed) (index : Nat) {segment : Segment} (rest : List (Nat × Segment))
    (hblank : segment.isBlank = false) (hrange : segment.first ≤ segment.last) :
    let call := callFor past.session segment
    let turn : Turn := ⟨index, segment, call, answerer k call⟩
    let later := runFrom answerer (k + 1) (ofSegments frame
      ⟨past.session.record segment turn.answer.outcome, true,
        past.annotations ++ turn.notes frame⟩ rest)
    runFrom answerer k (ofSegments frame past ((index, segment) :: rest)) =
      ⟨turn.events frame past.begun ++ later.events, later.ending⟩ := by
  intro call turn later
  have hproduced : produced frame segment (answerer k call) = .ok (turn.notes frame) :=
    turn.produced_eq_ok frame hrange
  simp only [ofSegments, hblank, Bool.false_eq_true, if_false]
  split
  next hpause =>
    simp only [runFrom, Run.after, Turn.events, hpause]
    rw [hproduced]
    rfl
  next hpause =>
    simp only [runFrom, Run.after, Turn.events, hpause]
    rw [hproduced]
    rfl

/-- The run of segments that are not blank and do not end before they start. -/
theorem runFrom_ofSegments (answerer : Answerer) (frame : Frame) (k : Nat) (past : Progressed)
    {numbered : List (Nat × Segment)}
    (hproper : ∀ entry ∈ numbered,
      entry.2.isBlank = false ∧ entry.2.first ≤ entry.2.last) :
    let turns := turnsFrom answerer k past.session numbered
    runFrom answerer k (ofSegments frame past numbered) =
      ⟨eventsOf frame past.begun turns,
        .ok (past.annotations ++ turns.flatMap (Turn.notes frame))⟩ := by
  -- The next turn starts from what this one leaves, so this is for any past.
  induction numbered generalizing k past with
  | nil => simp [ofSegments, runFrom, turnsFrom, eventsOf]
  | cons entry rest ih =>
      obtain ⟨index, segment⟩ := entry
      obtain ⟨hblank, hrange⟩ := hproper (index, segment) List.mem_cons_self
      have hrest : ∀ later ∈ rest, later.2.isBlank = false ∧ later.2.first ≤ later.2.last :=
        fun later hlater => hproper later (List.mem_cons_of_mem _ hlater)
      rw [runFrom_ofSegments_cons answerer frame k past index rest hblank hrange, ih _ _ hrest]
      simp only [turnsFrom, eventsOf, List.flatMap_cons, List.append_assoc]

theorem run_ofText (answerer : Answerer) (settings : Settings) (text : Text) :
    run answerer (ofText settings text) =
      ⟨eventsOf (frameOf settings text) false (courseOf answerer settings text),
        .ok ((courseOf answerer settings text).flatMap (Turn.notes (frameOf settings text)))⟩ := by
  simp only [run, ofText, courseOf]
  split
  next hnone => rfl
  next hsome =>
    have hproper : ∀ entry ∈ ((Document.ofText text).segments settings.mode
        settings.markers).zipIdx.map Prod.swap,
        entry.2.isBlank = false ∧ entry.2.first ≤ entry.2.last := by
      intro entry hentry
      obtain ⟨⟨segment, index⟩, hmem, rfl⟩ := List.mem_map.mp hentry
      have hstands := Document.standsIn_of_mem_segments (List.fst_mem_of_mem_zipIdx hmem)
      exact ⟨hstands.not_blank, hstands.first_le_last⟩
    exact runFrom_ofSegments answerer _ 0 .nothing hproper

/-! ## What turns there are -/

variable {answerer : Answerer} {frame : Frame}

theorem map_segment_turnsFrom (k : Nat) (session : Session) (numbered : List (Nat × Segment)) :
    (turnsFrom answerer k session numbered).map Turn.segment = numbered.map Prod.snd := by
  induction numbered generalizing k session with
  | nil => rfl
  | cons entry rest ih => simp [turnsFrom, ih]

theorem map_segment_turnsFrom_zipIdx (k : Nat) (session : Session) (segments : List Segment)
    (n : Nat) :
    (turnsFrom answerer k session ((segments.zipIdx n).map Prod.swap)).map Turn.segment =
      segments := by
  have hsnd : Prod.snd ∘ Prod.swap = (Prod.fst : Segment × Nat → Segment) := rfl
  rw [map_segment_turnsFrom, List.map_map, hsnd, List.zipIdx_map_fst]

/-- Later segments have their turns after the earlier ones, and do not change
those. -/
theorem turnsFrom_append (k : Nat) (session : Session) (earlier later : List (Nat × Segment)) :
    turnsFrom answerer k session (earlier ++ later) =
      turnsFrom answerer k session earlier ++
        turnsFrom answerer (k + earlier.length)
          (sessionAfter session (turnsFrom answerer k session earlier)) later := by
  induction earlier generalizing k session with
  | nil => rfl
  | cons entry earlier ih =>
      simp [turnsFrom, ih, sessionAfter, Nat.add_assoc, Nat.add_comm 1]

theorem not_unmarked_of_marked {settings : Settings} {text : Text}
    (hmarked : settings.mode = .explicit →
      ∃ line ∈ (Document.ofText text).lines, settings.markers.marks line = true) :
    ¬ (settings.mode = .explicit ∧
      ((Document.ofText text).marked settings.markers).isEmpty = true) := by
  rintro ⟨hexplicit, hempty⟩
  obtain ⟨line, hline, hmarks⟩ := hmarked hexplicit
  rw [Document.isEmpty_marked_iff.mp hempty line hline] at hmarks
  cases hmarks

/-- Each segment has one turn, in the order of the document. -/
theorem map_segment_courseOf {settings : Settings} {text : Text}
    (hsome : ¬ (settings.mode = .explicit ∧
      ((Document.ofText text).marked settings.markers).isEmpty = true)) :
    (courseOf answerer settings text).map Turn.segment =
      (Document.ofText text).segments settings.mode settings.markers := by
  rw [courseOf, if_neg hsome, map_segment_turnsFrom_zipIdx]

/-- The same for a text with a marked line, if its mode wants one. -/
theorem map_segment_courseOf_of_marked {settings : Settings} {text : Text}
    (hmarked : settings.mode = .explicit →
      ∃ line ∈ (Document.ofText text).lines, settings.markers.marks line = true) :
    (courseOf answerer settings text).map Turn.segment =
      (Document.ofText text).segments settings.mode settings.markers :=
  map_segment_courseOf (not_unmarked_of_marked hmarked)

theorem segments_courseOf_sublist (answerer : Answerer) (settings : Settings) (text : Text) :
    ((courseOf answerer settings text).map Turn.segment).Sublist
      ((Document.ofText text).segments settings.mode settings.markers) := by
  by_cases hnone : settings.mode = .explicit ∧
      ((Document.ofText text).marked settings.markers).isEmpty = true
  · rw [courseOf, if_pos hnone]
    exact List.nil_sublist _
  · rw [map_segment_courseOf hnone]

/-- Each turn is for a segment of the document. -/
theorem standsIn_of_mem_courseOf {settings : Settings} {text : Text} {turn : Turn}
    (hturn : turn ∈ courseOf answerer settings text) :
    turn.segment.StandsIn settings.markers (Document.ofText text) :=
  Document.standsIn_of_mem_segments
    ((segments_courseOf_sublist answerer settings text).subset (List.mem_map_of_mem hturn))

theorem courseOf_ascending {settings : Settings} {text : Text} :
    ((courseOf answerer settings text).map Turn.segment).Pairwise
      fun earlier later => earlier.last < later.first :=
  (Document.segments_ascending _ settings.mode settings.markers).sublist
    (segments_courseOf_sublist answerer settings text)

/-- A call is for the code of its segment, in the session that the turns
before it left. -/
theorem call_of_getElem?_turnsFrom {k : Nat} {session : Session}
    {numbered : List (Nat × Segment)} {j : Nat} {turn : Turn}
    (hturn : (turnsFrom answerer k session numbered)[j]? = some turn) :
    turn.call = callFor
      (sessionAfter session ((turnsFrom answerer k session numbered).take j)) turn.segment := by
  induction numbered generalizing k session j with
  | nil => cases hturn
  | cons entry rest ih =>
      cases j with
      | zero =>
          cases hturn
          rfl
      | succ j =>
          rw [turnsFrom, List.getElem?_cons_succ] at hturn
          rw [turnsFrom, List.take_succ_cons]
          exact ih hturn

theorem call_of_getElem?_courseOf {settings : Settings} {text : Text} {j : Nat} {turn : Turn}
    (hturn : (courseOf answerer settings text)[j]? = some turn) :
    turn.call = callFor
      (sessionAfter .fresh ((courseOf answerer settings text).take j)) turn.segment := by
  simp only [courseOf] at hturn ⊢
  split at hturn
  next hnone => cases hturn
  next hsome =>
    rw [if_neg hsome]
    exact call_of_getElem?_turnsFrom hturn

theorem call_of_mem_courseOf {settings : Settings} {text : Text} {turn : Turn}
    (hturn : turn ∈ courseOf answerer settings text) :
    turn.call.code = turn.segment.code ∧ turn.call.line = turn.segment.last := by
  obtain ⟨j, hj⟩ := List.mem_iff_getElem?.mp hturn
  rw [call_of_getElem?_courseOf hj]
  exact ⟨rfl, rfl⟩

theorem answers_turnsFrom (answerer : Answerer) (k : Nat) (session : Session)
    (numbered : List (Nat × Segment)) :
    (turnsFrom answerer k session numbered).map Turn.answer =
      ((turnsFrom answerer k session numbered).map Turn.call).mapIdx
        fun j call => answerer (k + j) call := by
  induction numbered generalizing k session with
  | nil => rfl
  | cons entry rest ih =>
      simp only [turnsFrom, List.map_cons, List.mapIdx_cons, ih, Nat.add_zero, List.cons.injEq,
        true_and]
      congr 1
      funext j call
      rw [Nat.add_right_comm, Nat.add_assoc]

theorem answers_courseOf (answerer : Answerer) (settings : Settings) (text : Text) :
    (courseOf answerer settings text).map Turn.answer =
      ((courseOf answerer settings text).map Turn.call).mapIdx answerer := by
  simp only [courseOf]
  split
  next hnone => rfl
  next hsome =>
    have hanswers := answers_turnsFrom answerer 0 .fresh
      (((Document.ofText text).segments settings.mode settings.markers).zipIdx.map Prod.swap)
    simpa only [Nat.zero_add] using hanswers

/-- An observation that sees nothing but calls and answers sees one for each
turn. -/
theorem filterMap_eventsOf {α : Type} {see : Event → Option α}
    (htold : ∀ progress, see (.told progress) = none) (hwaited : ∀ ms, see (.waited ms) = none)
    (begun : Bool) (turns : List Turn) :
    (eventsOf frame begun turns).filterMap see =
      turns.filterMap fun turn => see (.called turn.call turn.answer) := by
  induction turns generalizing begun with
  | nil => rfl
  | cons turn rest ih =>
      rw [eventsOf, List.filterMap_append, ih, Turn.events, List.filterMap_append]
      have hpause : (if begun && frame.settings.pause != 0 then
          [Event.waited frame.settings.pause] else []).filterMap see = [] := by
        split <;> simp [hwaited]
      rw [hpause]
      cases hsee : see (.called turn.call turn.answer) <;> simp [htold, hsee]

theorem calls_run_ofText (answerer : Answerer) (settings : Settings) (text : Text) :
    (run answerer (ofText settings text)).calls =
      (courseOf answerer settings text).map Turn.call := by
  rw [run_ofText, Run.calls, filterMap_eventsOf (fun _ => rfl) (fun _ => rfl)]
  exact congrFun List.filterMap_eq_map' _

/-- Every segment is called for, in the order of the document. -/
theorem map_calls_run_ofText (answerer : Answerer) {settings : Settings} {text : Text}
    (hmarked : settings.mode = .explicit →
      ∃ line ∈ (Document.ofText text).lines, settings.markers.marks line = true) :
    (run answerer (ofText settings text)).calls.map (fun call => (call.code, call.line)) =
      ((Document.ofText text).segments settings.mode settings.markers).map
        (fun segment => (segment.code, segment.last)) := by
  rw [calls_run_ofText, ← @map_segment_courseOf_of_marked answerer _ _ hmarked,
    List.map_map, List.map_map]
  exact List.map_congr_left fun turn hturn => Prod.ext_iff.mpr (call_of_mem_courseOf hturn)

theorem answers_run_ofText (answerer : Answerer) (settings : Settings) (text : Text) :
    (run answerer (ofText settings text)).answers =
      (courseOf answerer settings text).map Turn.answer := by
  rw [run_ofText, Run.answers, filterMap_eventsOf (fun _ => rfl) (fun _ => rfl)]
  exact congrFun List.filterMap_eq_map' _

end InlineEval.Cycle
