import InlineEval.Proofs.Cycle.Annotations
import InlineEval.Proofs.Segment.Layout
import InlineEval.Proofs.Segment.Reading

/-! # Edits below leave the cycle above untouched

Two texts that begin with the same lines begin with the same segments, up to
the one that the last of these lines may still belong to. Segments have their
turns one after another, and a turn knows nothing of what stands below it. So
both cycles start with the same calls, and show the same for these segments.
-/

namespace InlineEval.Cycle

open Text

/-! ## Turns with the same outcomes -/

/-- A turn without its number and the time that its call took. -/
structure Gist where
  segment : Segment
  call : Call
  outcome : Outcome

def Turn.gist (turn : Turn) : Gist := ⟨turn.segment, turn.call, turn.answer.outcome⟩

/-- The turns of segments that nothing has run before, times aside. -/
def gistsOf (answerer : Answerer) (segments : List Segment) : List Gist :=
  (turnsFrom answerer 0 .fresh (segments.zipIdx.map Prod.swap)).map Turn.gist

theorem map_gist_turnsFrom {first second : Answerer}
    (hagree : ∀ k j call, (first k call).outcome = (second j call).outcome) (k j : Nat)
    (session : Session) (numbered : List (Nat × Segment)) :
    (turnsFrom first k session numbered).map Turn.gist =
      (turnsFrom second j session numbered).map Turn.gist := by
  -- Equal outcomes leave the same session behind, and the next turn needs no more.
  induction numbered generalizing k j session with
  | nil => rfl
  | cons entry rest ih =>
      simp only [turnsFrom, List.map_cons, Turn.gist, hagree k j, List.cons.injEq, true_and]
      exact ih _ _ _

/-- Only the outcomes of calls matter. -/
theorem gistsOf_congr {first second : Answerer}
    (hagree : ∀ k j call, (first k call).outcome = (second j call).outcome)
    (segments : List Segment) : gistsOf first segments = gistsOf second segments :=
  map_gist_turnsFrom hagree 0 0 .fresh _

theorem map_segment_gistsOf (answerer : Answerer) (segments : List Segment) :
    (gistsOf answerer segments).map Gist.segment = segments := by
  rw [gistsOf, List.map_map]
  exact map_segment_turnsFrom_zipIdx 0 .fresh segments 0

/-- What a turn shows, times aside. -/
def shownFor (frame : Frame) (gist : Gist) : List Annotation :=
  let placed := Annotation.place frame.settings.mode gist.outcome gist.segment frame.marked
  placed.toOption.getD []

theorem Turn.notes_eq_shownFor {frame : Frame} (huntimed : frame.settings.showTimings = false)
    (turn : Turn) : turn.notes frame = shownFor frame turn.gist := by
  simp only [notes, produced, shownFor, gist]
  cases Annotation.place frame.settings.mode turn.answer.outcome turn.segment frame.marked with
  | error cause => rfl
  | ok placed => simp [huntimed, Except.map]

theorem contains_of_mem_shownFor {frame : Frame} {gist : Gist}
    (hrange : gist.segment.first ≤ gist.segment.last) {note : Annotation}
    (hnote : note ∈ shownFor frame gist) : gist.segment.contains note.line = true := by
  obtain ⟨placed, hplaced⟩ := Annotation.place_ok hrange
  rw [shownFor, hplaced] at hnote
  have hall := Annotation.place_placed hrange hplaced
  exact hall.inside note hnote

/-! ## Turns above and below -/

variable {settings : Settings} {text : Text} {above : List Segment}

/-- A cycle begins with the turns of its first segments. The turns after these
are for segments further down. -/
theorem courseOf_of_prefix (answerer : Answerer)
    (hmarked : settings.mode = .explicit →
      ∃ line ∈ (Document.ofText text).lines, settings.markers.marks line = true)
    (habove : above <+: (Document.ofText text).segments settings.mode settings.markers) :
    ∃ below, courseOf answerer settings text =
        turnsFrom answerer 0 .fresh (above.zipIdx.map Prod.swap) ++ below ∧
      ∀ turn ∈ below, ∀ segment ∈ above, segment.last < turn.segment.first := by
  obtain ⟨rest, hrest⟩ := habove
  have hturns : ∃ n k session, courseOf answerer settings text =
      turnsFrom answerer 0 .fresh (above.zipIdx.map Prod.swap) ++
        turnsFrom answerer k session ((rest.zipIdx n).map Prod.swap) := by
    rw [courseOf, if_neg (not_unmarked_of_marked hmarked), ← hrest, List.zipIdx_append,
      List.map_append, turnsFrom_append]
    exact ⟨_, _, _, rfl⟩
  obtain ⟨n, k, session, hturns⟩ := hturns
  refine ⟨_, hturns, ?_⟩
  intro turn hturn segment hsegment
  have hrest' : turn.segment ∈ rest := by
    have hmem := List.mem_map_of_mem (f := Turn.segment) hturn
    rwa [map_segment_turnsFrom_zipIdx] at hmem
  have hascending := Document.segments_ascending (.ofText text) settings.mode settings.markers
  rw [← hrest] at hascending
  exact (List.pairwise_append.mp hascending).2.2 segment hsegment turn.segment hrest'

/-- What a cycle calls for and shows, by its first segments. -/
theorem run_ofText_of_prefix (answerer : Answerer)
    (hmarked : settings.mode = .explicit →
      ∃ line ∈ (Document.ofText text).lines, settings.markers.marks line = true)
    (huntimed : settings.showTimings = false)
    (habove : above <+: (Document.ofText text).segments settings.mode settings.markers) :
    let gists := gistsOf answerer above
    let run := Cycle.run answerer (ofText settings text)
    run.calls.take above.length = gists.map Gist.call ∧
      ∃ below, run.ending = .ok (gists.flatMap (shownFor (frameOf settings text)) ++ below) ∧
        ∀ note ∈ below, ∀ segment ∈ above, segment.last < note.line := by
  intro gists run
  obtain ⟨below, hcourse, hbelow⟩ := courseOf_of_prefix answerer hmarked habove
  have hgists : (courseOf answerer settings text).map Turn.gist = gists ++ below.map Turn.gist := by
    rw [hcourse, List.map_append]
    rfl
  have hlength : gists.length = above.length := by
    rw [← List.length_map Gist.segment, map_segment_gistsOf]
  constructor
  · have hcalls : run.calls = (gists ++ below.map Turn.gist).map Gist.call := by
      rw [← hgists, List.map_map]
      exact calls_run_ofText answerer settings text
    rw [hcalls, List.map_append, List.take_left' (by rw [List.length_map, hlength])]
  · refine ⟨(below.map Turn.gist).flatMap (shownFor (frameOf settings text)), ?_, ?_⟩
    · rw [← List.flatMap_append, ← hgists, List.flatMap_map]
      have hshown : Turn.notes (frameOf settings text) =
          fun turn => shownFor (frameOf settings text) turn.gist :=
        funext (Turn.notes_eq_shownFor huntimed)
      rw [← hshown]
      exact congrArg Run.ending (run_ofText answerer settings text)
    · intro note hnote segment hsegment
      obtain ⟨gist, hgist, hnote⟩ := List.mem_flatMap.mp hnote
      obtain ⟨turn, hturn, rfl⟩ := List.mem_map.mp hgist
      have hrange : turn.segment.first ≤ turn.segment.last := by
        apply first_le_last_of_mem_courseOf
        rw [hcourse]
        exact List.mem_append_right _ hturn
      have hinside := Segment.contains_iff.mp (contains_of_mem_shownFor hrange hnote)
      exact Nat.lt_of_lt_of_le (hbelow turn hturn segment hsegment) hinside.1

/-! ## Two texts that begin alike -/

variable {shared : List Text} {other : Text}

/-- What is shown for a segment depends on the lines down to its end and on
nothing below. -/
theorem shownFor_frameOf_of_prefix (htext : shared <+: (Document.ofText text).lines)
    (hother : shared <+: (Document.ofText other).lines) {gist : Gist}
    (hrange : gist.segment.first ≤ gist.segment.last) (hlast : gist.segment.last < shared.length) :
    shownFor (frameOf settings text) gist = shownFor (frameOf settings other) gist := by
  have hbetween : ∀ {t : Text}, shared <+: (Document.ofText t).lines →
      ((Document.ofText t).marked settings.markers).between gist.segment.first
          gist.segment.last =
        (Document.marked ⟨shared⟩ settings.markers).between gist.segment.first
          gist.segment.last :=
    fun hshared => Document.between_marked_of_prefix hshared _ _ hlast
  have hboth := (hbetween htext).trans (hbetween hother).symm
  simp only [shownFor, frameOf, Annotation.place_congr hrange hboth]

/-- Two texts that begin with the same lines have cycles that begin alike. Of
the segments of these lines all but the last are called for with the same
programs, and they show the same before anything below them is shown. -/
theorem edits_below_keep_above {f : Call → Outcome} {first second : Answerer}
    (hfirst : ∀ k call, (first k call).outcome = f call)
    (hsecond : ∀ k call, (second k call).outcome = f call)
    {settings : Settings} (huntimed : settings.showTimings = false)
    {text other : Text} {shared : List Text}
    (htext : shared <+: (Document.ofText text).lines)
    (hother : shared <+: (Document.ofText other).lines)
    (hmarked : settings.mode = .explicit →
      ∃ line ∈ (Document.ofText text).lines, settings.markers.marks line = true)
    (hmarked' : settings.mode = .explicit →
      ∃ line ∈ (Document.ofText other).lines, settings.markers.marks line = true) :
    let above := (divide settings.mode settings.markers shared).dropLast
    let one := run first (ofText settings text)
    let two := run second (ofText settings other)
    one.calls.take above.length = two.calls.take above.length ∧
      (one.calls.take above.length).map (fun call => (call.code, call.line)) =
        above.map (fun segment => (segment.code, segment.last)) ∧
      ∃ notes below below', one.ending = .ok (notes ++ below) ∧
        two.ending = .ok (notes ++ below') ∧
        (∀ note ∈ notes, ∃ segment ∈ above, segment.contains note.line = true) ∧
        ∀ note ∈ below ++ below', ∀ segment ∈ above, segment.last < note.line := by
  intro above one two
  have hbounds : ∀ segment ∈ above,
      segment.first ≤ segment.last ∧ segment.last < shared.length := by
    intro segment hsegment
    have hbounds := (Layout.divide_layout settings.mode settings.markers shared).bounds
      ((List.dropLast_sublist _).subset hsegment)
    omega
  have habove : above <+: (Document.ofText text).segments settings.mode settings.markers :=
    dropLast_divide_prefix htext
  have habove' : above <+: (Document.ofText other).segments settings.mode settings.markers :=
    dropLast_divide_prefix hother
  obtain ⟨hcalls, below, hending, hbelow⟩ :=
    run_ofText_of_prefix first hmarked huntimed habove
  obtain ⟨hcalls', below', hending', hbelow'⟩ :=
    run_ofText_of_prefix second hmarked' huntimed habove'
  rw [← gistsOf_congr fun k j call => (hfirst k call).trans (hsecond j call).symm]
    at hcalls' hending'
  have hgists : ∀ gist ∈ gistsOf first above, gist.segment ∈ above := by
    intro gist hgist
    rw [← map_segment_gistsOf first above]
    exact List.mem_map_of_mem hgist
  refine ⟨hcalls.trans hcalls'.symm, ?_, _, below, below', hending, ?_, ?_, ?_⟩
  · obtain ⟨rest, hrest⟩ := habove
    rw [List.map_take, map_calls_run_ofText first hmarked, ← hrest, List.map_append,
      List.take_left' (List.length_map _)]
  · rw [hending']
    have hshown : ∀ gist ∈ gistsOf first above,
        shownFor (frameOf settings other) gist = shownFor (frameOf settings text) gist := by
      intro gist hgist
      have hbounds := hbounds gist.segment (hgists gist hgist)
      exact shownFor_frameOf_of_prefix hother htext hbounds.1 hbounds.2
    rw [List.flatMap_congr hshown]
  · intro note hnote
    obtain ⟨gist, hgist, hnote⟩ := List.mem_flatMap.mp hnote
    have habove := hgists gist hgist
    exact ⟨gist.segment, habove, contains_of_mem_shownFor (hbounds gist.segment habove).1 hnote⟩
  · intro note hnote
    exact (List.mem_append.mp hnote).elim (hbelow note) (hbelow' note)

/-- The last of the shared lines opens a bracket, which only one of the texts
closes. What stands above it is safe. -/
theorem edits_below_keep_above_bracket :
    let f : Call → Outcome := fun call =>
      if call.line = 1 then { Outcome.silent with bindings := [("b".toList, "1".toList)] }
      else .failure "Name Error: c".toList
    let first : Answerer := fun _ call => ⟨f call, 3⟩
    let second : Answerer := fun k call => ⟨f call, k⟩
    let one := run first (ofText .default "f()\nb = 1 # ?\nc = (\n1) # ?".toList)
    let two := run second (ofText .default "f()\nb = 1 # ?\nc = (\n2".toList)
    let above : List Segment := [⟨0, 0, "f()".toList⟩, ⟨1, 1, "b = 1 # ?".toList⟩]
    one.calls.take 2 = two.calls.take 2 ∧
      (one.calls.take 2).map (fun call => (call.code, call.line)) =
        above.map (fun segment => (segment.code, segment.last)) ∧
      ∃ notes below below', one.ending = .ok (notes ++ below) ∧
        two.ending = .ok (notes ++ below') ∧
        (∀ note ∈ notes, ∃ segment ∈ above, segment.contains note.line = true) ∧
        ∀ note ∈ below ++ below', ∀ segment ∈ above, segment.last < note.line := by
  intro f first second one two above
  let shared : List Text := ["f()".toList, "b = 1 # ?".toList, "c = (".toList]
  have hfirst : ∀ k call, (first k call).outcome = f call := fun _ _ => rfl
  have hsecond : ∀ k call, (second k call).outcome = f call := fun _ _ => rfl
  have hone : shared <+: (Document.ofText "f()\nb = 1 # ?\nc = (\n1) # ?".toList).lines := by
    decide
  have htwo : shared <+: (Document.ofText "f()\nb = 1 # ?\nc = (\n2".toList).lines := by decide
  have huntimed : Settings.default.showTimings = false := rfl
  have habove : (divide Settings.default.mode Settings.default.markers shared).dropLast =
      above := by decide
  have hkept := edits_below_keep_above hfirst hsecond huntimed hone htwo (by decide) (by decide)
  rw [habove] at hkept
  exact hkept

end InlineEval.Cycle
