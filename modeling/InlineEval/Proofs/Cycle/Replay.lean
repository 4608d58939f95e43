import InlineEval.Proofs.Cycle.Course

/-! # Programs replay what succeeded

The program that runs a segment consists of document lines. They are the lines
of those segments before it that succeeded, and then its own, so that a
failure is never repeated and a success never forgotten.
-/

namespace InlineEval

open Text

/-- The lines of ascending segments are the lines of one after another. -/
theorem Document.select_any_contains (doc : Document) {segments : List Segment}
    (hascending : segments.Pairwise fun earlier later => earlier.last < later.first) :
    doc.select (fun i => segments.any fun segment => segment.contains i) =
      segments.flatMap fun segment => doc.select segment.contains := by
  induction segments with
  | nil => exact doc.select_none
  | cons segment rest ih =>
      obtain ⟨hbefore, hrest⟩ := List.pairwise_cons.mp hascending
      rw [List.flatMap_cons, ← ih hrest]
      -- The first segment ends before any of the others starts.
      refine Document.select_or fun i j hi hj => ?_
      obtain ⟨later, hlater, hj⟩ := List.any_eq_true.mp hj
      have hlt := hbefore later hlater
      have hi := Segment.contains_iff.mp hi
      have hj := Segment.contains_iff.mp hj
      omega

/-- A line stands in no two of several ascending segments. -/
theorem Segment.index_eq_of_contains {segments : List Segment}
    (hascending : segments.Pairwise fun earlier later => earlier.last < later.first)
    {j k : Nat} {one other : Segment} (hone : segments[j]? = some one)
    (hother : segments[k]? = some other) {i : Nat} (hi : one.contains i = true)
    (hi' : other.contains i = true) : j = k := by
  obtain ⟨hj, rfl⟩ := List.getElem?_eq_some_iff.mp hone
  obtain ⟨hk, rfl⟩ := List.getElem?_eq_some_iff.mp hother
  have hi := Segment.contains_iff.mp hi
  have hi' := Segment.contains_iff.mp hi'
  rcases Nat.lt_trichotomy j k with hlt | heq | hgt
  · have hbefore := List.pairwise_iff_getElem.mp hascending j k hj hk hlt
    omega
  · exact heq
  · have hbefore := List.pairwise_iff_getElem.mp hascending k j hk hj hgt
    omega

theorem Session.split_program (session : Session) (code : Text) :
    split '\n' (session.program code) =
      session.committed.flatMap (split '\n') ++ split '\n' code := by
  rw [program, split_joinLines_eq_flatMap (by simp), List.flatMap_append, List.flatMap_singleton]

namespace Cycle

/-- The segments that succeeded, by the answers to their calls. -/
def succeeded (segments : List Segment) (answers : List Answer) : List Segment :=
  ((segments.zip answers).filter fun turn => turn.2.outcome.success).map Prod.fst

theorem succeeded_turns (turns : List Turn) :
    succeeded (turns.map Turn.segment) (turns.map Turn.answer) =
      (turns.filter fun turn => turn.answer.outcome.success).map Turn.segment := by
  rw [succeeded, List.zip_map', List.filter_map, List.map_map]
  rfl

/-- A session holds the code of the segments that succeeded and of no other. -/
theorem committed_sessionAfter (session : Session) (turns : List Turn) :
    (sessionAfter session turns).committed = session.committed ++
      (succeeded (turns.map Turn.segment) (turns.map Turn.answer)).map Segment.code := by
  rw [succeeded_turns]
  induction turns generalizing session with
  | nil => exact (List.append_nil _).symm
  | cons turn rest ih =>
      rw [sessionAfter, List.foldl_cons, ← sessionAfter, ih]
      cases hsuccess : turn.answer.outcome.success <;>
        simp [Session.record, Session.commit, hsuccess]

variable {answerer : Answerer} {settings : Settings} {text : Text}

/-- The lines of the program that runs in a turn, by the turns before it. -/
theorem split_program_of_getElem?_courseOf {j : Nat} {turn : Turn}
    (hturn : (courseOf answerer settings text)[j]? = some turn) :
    let doc := Document.ofText text
    let past := (courseOf answerer settings text).take j
    let replayed := succeeded (past.map Turn.segment) (past.map Turn.answer)
    split '\n' turn.call.program =
      (doc.select fun i => replayed.any fun segment => segment.contains i).map Prod.snd ++
        (doc.select turn.segment.contains).map Prod.snd := by
  intro doc past replayed
  have hcode : ∀ other ∈ courseOf answerer settings text,
      split '\n' other.segment.code = (doc.select other.segment.contains).map Prod.snd :=
    fun other hother => (standsIn_of_mem_courseOf hother).split_code
  have hsucceeded : replayed = (past.filter fun turn => turn.answer.outcome.success).map
      Turn.segment := succeeded_turns past
  have hpast : (past.filter fun turn => turn.answer.outcome.success).Sublist
      (courseOf answerer settings text) :=
    List.filter_sublist.trans (List.take_sublist _ _)
  have hascending : replayed.Pairwise fun earlier later => earlier.last < later.first := by
    rw [hsucceeded]
    exact courseOf_ascending.sublist (hpast.map Turn.segment)
  have hcall : turn.call = callFor (sessionAfter .fresh past) turn.segment :=
    call_of_getElem?_courseOf hturn
  have hcommitted : (sessionAfter .fresh past).committed = replayed.map Segment.code := by
    rw [committed_sessionAfter]
    rfl
  calc split '\n' turn.call.program
      = (sessionAfter .fresh past).committed.flatMap (split '\n') ++
          split '\n' turn.segment.code := by
        rw [hcall, callFor, Session.split_program]
    _ = (replayed.flatMap fun segment => split '\n' segment.code) ++
          split '\n' turn.segment.code := by
        rw [hcommitted, List.flatMap_map]
    _ = (replayed.flatMap fun segment => (doc.select segment.contains).map Prod.snd) ++
          (doc.select turn.segment.contains).map Prod.snd := by
        rw [hcode turn (List.mem_of_getElem? hturn)]
        congr 1
        rw [hsucceeded, List.flatMap_map, List.flatMap_map]
        exact List.flatMap_congr fun other hother => hcode other (hpast.subset hother)
    _ = (doc.select fun i => replayed.any fun segment => segment.contains i).map Prod.snd ++
          (doc.select turn.segment.contains).map Prod.snd := by
        rw [Document.select_any_contains doc hascending, List.map_flatMap]

/-- No line of a segment that failed stands in one that succeeded. -/
theorem any_succeeded_eq_false {segments : List Segment} {answers : List Answer}
    (hascending : segments.Pairwise fun earlier later => earlier.last < later.first)
    {j : Nat} {failed : Segment} {answer : Answer} (hsegment : segments[j]? = some failed)
    (hanswer : answers[j]? = some answer) (hfailed : answer.outcome.success = false)
    {i : Nat} (hi : failed.contains i = true) :
    (succeeded segments answers).any (fun segment => segment.contains i) = false := by
  rw [List.any_eq_false]
  intro segment hmem hcontains
  obtain ⟨turn, hturn, rfl⟩ := List.mem_map.mp hmem
  obtain ⟨hzip, hsuccess⟩ := List.mem_filter.mp hturn
  obtain ⟨k, hk⟩ := List.mem_iff_getElem?.mp hzip
  obtain ⟨hother, hreply⟩ := List.getElem?_zip_eq_some.mp hk
  have hsame : j = k := Segment.index_eq_of_contains hascending hsegment hother hi hcontains
  rw [← hsame, hanswer, Option.some_inj] at hreply
  rw [← hreply, hfailed] at hsuccess
  cases hsuccess

/-- A cycle calls for every segment once, in the order of the document. What
runs for a segment are the lines of the segments before it that succeeded, each
of them once and in order, and then its own lines. -/
theorem calls_replay_successes (answerer : Answerer) (settings : Settings) (text : Text) :
    let doc := Document.ofText text
    let segments := doc.segments settings.mode settings.markers
    let run := Cycle.run answerer (ofText settings text)
    (∃ annotations, run.ending = .ok annotations) ∧
      (settings.mode = .explicit → (∀ line ∈ doc.lines, settings.markers.marks line = false) →
        run.calls = []) ∧
      ((settings.mode = .explicit → ∃ line ∈ doc.lines, settings.markers.marks line = true) →
        run.calls.map (fun call => (call.code, call.line)) =
            segments.map (fun segment => (segment.code, segment.last)) ∧
          (run.calls.map Call.line).Pairwise (· < ·) ∧
          run.answers = run.calls.mapIdx answerer ∧
          ∀ k segment call, segments[k]? = some segment → run.calls[k]? = some call →
            let replayed := succeeded (segments.take k) (run.answers.take k)
            split '\n' call.program =
                (doc.select fun i => replayed.any fun segment => segment.contains i).map Prod.snd ++
                  (doc.select segment.contains).map Prod.snd ∧
              ∀ j < k, ∀ failed answer, segments[j]? = some failed →
                run.answers[j]? = some answer → answer.outcome.success = false →
                ∀ i, failed.contains i = true →
                  replayed.any (fun segment => segment.contains i) = false) := by
  intro doc segments run
  have hcalls : run.calls = (courseOf answerer settings text).map Turn.call :=
    calls_run_ofText answerer settings text
  have hanswers : run.answers = (courseOf answerer settings text).map Turn.answer :=
    answers_run_ofText answerer settings text
  refine ⟨?_, ?_, ?_⟩
  · exact ⟨_, congrArg Run.ending (run_ofText answerer settings text)⟩
  · intro hexplicit hunmarked
    rw [hcalls, courseOf, if_pos ⟨hexplicit, Document.isEmpty_marked_iff.mpr hunmarked⟩]
    rfl
  · intro hmarked
    have hturns : (courseOf answerer settings text).map Turn.segment = segments :=
      map_segment_courseOf_of_marked hmarked
    have hlines : run.calls.map Call.line = segments.map Segment.last := by
      rw [hcalls, ← hturns, List.map_map, List.map_map]
      exact List.map_congr_left fun turn hturn => (call_of_mem_courseOf hturn).2
    refine ⟨?_, ?_, ?_, ?_⟩
    · exact map_calls_run_ofText answerer hmarked
    · rw [hlines]
      exact Document.segments_last_ascending text settings.mode settings.markers
    · rw [hanswers, hcalls]
      exact answers_courseOf answerer settings text
    · intro k segment call hsegment hcall
      rw [hcalls, List.getElem?_map, Option.map_eq_some_iff] at hcall
      obtain ⟨turn, hturn, rfl⟩ := hcall
      rw [← hturns, List.getElem?_map, hturn, Option.map_some, Option.some_inj] at hsegment
      have hprogram := split_program_of_getElem?_courseOf hturn
      simp only [List.map_take, hturns, ← hanswers, hsegment] at hprogram
      refine ⟨hprogram, ?_⟩
      intro j hj failed answer hfailed hanswer hfailure i hi
      have hpast : (segments.take k)[j]? = some failed := by
        rw [List.getElem?_take_of_lt hj, hfailed]
      have hreply : (run.answers.take k)[j]? = some answer := by
        rw [List.getElem?_take_of_lt hj, hanswer]
      have hascending := (Document.segments_ascending doc settings.mode settings.markers).sublist
        (List.take_sublist k segments)
      exact any_succeeded_eq_false hascending hpast hreply hfailure hi

/-- The line in the middle fails, and the last one runs after the first. -/
theorem calls_replay_successes_past_failure :
    let answerer : Answerer := .ofFunction fun call =>
      if call.code = "boom()".toList then ⟨.failure "Name Error: boom".toList, 0⟩
      else ⟨.silent, 0⟩
    let text := "a = 1\nboom()\nb = a # ?".toList
    let call : Call := ⟨"a = 1\nb = a # ?".toList, "b = a # ?".toList, 2⟩
    (Cycle.run answerer (ofText .default text)).calls[2]? = some call ∧
      split '\n' call.program = ["a = 1".toList, "b = a # ?".toList] := by
  intro answerer text call
  have hcall : (Cycle.run answerer (ofText .default text)).calls[2]? = some call := by decide
  have hmarked : ∃ line ∈ (Document.ofText text).lines,
      Settings.default.markers.marks line = true := by decide
  have hsegment : ((Document.ofText text).segments .explicit .default)[2]? =
      some ⟨2, 2, "b = a # ?".toList⟩ := by decide
  obtain ⟨-, -, -, hprogram⟩ :=
    (calls_replay_successes answerer .default text).2.2 fun _ => hmarked
  refine ⟨hcall, (hprogram 2 _ call hsegment hcall).1.trans ?_⟩
  decide

end Cycle

end InlineEval
