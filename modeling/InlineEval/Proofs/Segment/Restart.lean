import InlineEval.Proofs.Segment.Layout
import InlineEval.Proofs.Segment.Reading
import InlineEval.Proofs.Segment.Stages

/-! # Every segment is a fresh start

A line that begins a segment is divided from the lines behind it as if nothing
stood before it. So a document may be cut in front of any of its segments and
the two parts divided apart, a segment divided by itself is one segment again,
and there is only one way to lay a document out.
-/

namespace InlineEval

open Text

variable {mode : Mode} {markers : MarkerSet} {open? : Option Draft} {i : Nat} {line : Text}

/-! ## What one line does -/

theorem eq_of_mem_startLine {segment : Segment}
    (hmem : segment ∈ (startLine mode markers i line).1) : segment = Segment.ofLines i [line] := by
  unfold startLine at hmem
  split at hmem
  · cases hmem
  · split at hmem
    · cases hmem
    · split at hmem
      · exact List.mem_singleton.mp hmem
      · cases hmem

theorem grown_of_mem_startLine {draft : Draft}
    (hmem : draft ∈ (startLine mode markers i line).2) :
    draft.Grown mode markers ∧ draft.start = i ∧ draft.seen = [line] := by
  unfold startLine at hmem
  split at hmem
  next => cases hmem
  next hkeep =>
    rw [Bool.not_eq_true] at hkeep
    split at hmem
    next hopens =>
      cases hmem
      exact ⟨.header hkeep hopens, rfl, rfl⟩
    next hplain =>
      rw [Bool.not_eq_true] at hplain
      split at hmem
      next => cases hmem
      next halone =>
        cases hmem
        exact ⟨.plain hkeep hplain halone, rfl, rfl⟩

theorem divideLine_of_refused
    (hrefused : ∀ draft ∈ open?, draft.accept mode markers line = none) :
    divideLine mode markers open? i line =
      (open?.toList.map Draft.close ++ (startLine mode markers i line).1,
        (startLine mode markers i line).2) := by
  cases open? with
  | none => rfl
  | some draft => simp [divideLine, hrefused draft rfl]

/-- Either the open draft takes the line, or the line starts afresh. -/
theorem divideLine_cases (mode : Mode) (markers : MarkerSet) (open? : Option Draft) (i : Nat)
    (line : Text) :
    (∃ draft next, open? = some draft ∧ draft.Takes mode markers line next ∧
        divideLine mode markers open? i line = ([], some next)) ∨
      ∀ draft ∈ open?, draft.accept mode markers line = none := by
  cases open? with
  | none => exact .inr (by simp)
  | some draft =>
      cases haccept : draft.accept mode markers line with
      | some next =>
          exact .inl ⟨draft, next, rfl, Draft.accept_eq_some_iff.mp haccept,
            by simp [divideLine, haccept]⟩
      | none => exact .inr (by simpa using haccept)

theorem Draft.Takes.start_eq {draft next : Draft} (htakes : draft.Takes mode markers line next) :
    next.start = draft.start :=
  (accept_lines (accept_eq_some_iff.mpr htakes)).1

/-- The draft that is open in front of line `i`, if one is. -/
def OpenAt (mode : Mode) (markers : MarkerSet) (i : Nat) (open? : Option Draft) : Prop :=
  ∀ draft ∈ open?, draft.Grown mode markers ∧ i = draft.start + draft.seen.length

namespace OpenAt

theorem none : OpenAt mode markers i none := by simp [OpenAt]

theorem start_lt (hopen : OpenAt mode markers i open?) : ∀ draft ∈ open?, draft.start < i := by
  intro draft hdraft
  obtain ⟨hgrown, hi⟩ := hopen draft hdraft
  have hpos := List.length_pos_iff.mpr hgrown.seen_ne_nil
  omega

theorem divideLine (hopen : OpenAt mode markers i open?) (line : Text) :
    OpenAt mode markers (i + 1) (divideLine mode markers open? i line).2 := by
  rcases divideLine_cases mode markers open? i line with
    ⟨draft, next, rfl, htakes, hline⟩ | hrefused
  · rw [hline]
    rintro _ ⟨⟩
    obtain ⟨hgrown, hi⟩ := hopen draft rfl
    refine ⟨.takes hgrown htakes, ?_⟩
    simp [htakes.seen_eq, htakes.start_eq, hi, Nat.add_assoc]
  · rw [divideLine_of_refused hrefused]
    intro draft hdraft
    obtain ⟨hgrown, hstart, hseen⟩ := grown_of_mem_startLine hdraft
    exact ⟨hgrown, by simp [hstart, hseen]⟩

end OpenAt

/-! ## Where segments start -/

theorem first_le_of_mem_divideLine (hopen : OpenAt mode markers i open?) {segment : Segment}
    (hmem : segment ∈ (divideLine mode markers open? i line).1) : segment.first ≤ i := by
  rcases divideLine_cases mode markers open? i line with ⟨_, _, _, _, hline⟩ | hrefused
  · rw [hline] at hmem
    cases hmem
  · rw [divideLine_of_refused hrefused, List.mem_append] at hmem
    rcases hmem with hclosed | hstarted
    · obtain ⟨draft, hdraft, rfl⟩ := List.mem_map.mp hclosed
      exact (hopen.start_lt draft (Option.mem_toList.mp hdraft)).le
    · rw [eq_of_mem_startLine hstarted]
      exact Nat.le_refl i

/-- A segment starts where the open draft does, or with one of the lines that
are still to come. -/
theorem first_of_mem_divideFrom {lines : List Text} {segment : Segment}
    (hmem : segment ∈ divideFrom mode markers open? i lines) :
    (∃ draft ∈ open?, segment.first = draft.start) ∨ i ≤ segment.first := by
  induction lines generalizing open? i with
  | nil =>
      obtain ⟨draft, hdraft, rfl⟩ := List.mem_map.mp hmem
      exact .inl ⟨draft, Option.mem_toList.mp hdraft, rfl⟩
  | cons line rest ih =>
      rw [divideFrom_cons, List.mem_append] at hmem
      rcases divideLine_cases mode markers open? i line with
        ⟨draft, next, rfl, htakes, hline⟩ | hrefused
      · rw [hline] at hmem
        rcases hmem with hnone | hlater
        · cases hnone
        · rcases ih hlater with ⟨_, ⟨⟩, hfirst⟩ | hlater
          · exact .inl ⟨draft, rfl, hfirst.trans htakes.start_eq⟩
          · exact .inr (Nat.le_of_succ_le hlater)
      · rw [divideLine_of_refused hrefused, List.mem_append] at hmem
        rcases hmem with (hclosed | hstarted) | hlater
        · obtain ⟨draft, hdraft, rfl⟩ := List.mem_map.mp hclosed
          exact .inl ⟨draft, Option.mem_toList.mp hdraft, rfl⟩
        · rw [eq_of_mem_startLine hstarted]
          exact .inr (Nat.le_refl i)
        · rcases ih hlater with ⟨draft, hdraft, hfirst⟩ | hlater
          · rw [hfirst, (grown_of_mem_startLine hdraft).2.1]
            exact .inr (Nat.le_refl i)
          · exact .inr (Nat.le_of_succ_le hlater)

/-- In front of the line that starts a segment the division can be cut: the
lines before it know nothing of those behind it, nor the other way round. -/
theorem divideFrom_eq_append (hopen : OpenAt mode markers i open?) {lines : List Text}
    {segment : Segment} (hmem : segment ∈ divideFrom mode markers open? i lines) {k : Nat}
    (hfirst : segment.first = i + k) :
    divideFrom mode markers open? i lines =
      divideFrom mode markers open? i (lines.take k) ++
        divideFrom mode markers none (i + k) (lines.drop k) := by
  induction lines generalizing open? i k with
  | nil =>
      obtain ⟨draft, hdraft, rfl⟩ := List.mem_map.mp hmem
      have hlt := hopen.start_lt draft (Option.mem_toList.mp hdraft)
      change draft.start = i + k at hfirst
      omega
  | cons line rest ih =>
      cases k with
      | zero =>
          -- An open draft that took this line would start no segment here.
          rcases divideLine_cases mode markers open? i line with
            ⟨draft, next, rfl, htakes, hline⟩ | hrefused
          · rw [divideFrom_cons, hline] at hmem
            have hlt := hopen.start_lt draft rfl
            have hstart := htakes.start_eq
            rcases first_of_mem_divideFrom hmem with ⟨_, ⟨⟩, hnext⟩ | hlater <;> omega
          · rw [divideFrom_cons, divideLine_of_refused hrefused, List.append_assoc]
            rfl
      | succ k =>
          rw [divideFrom_cons, List.mem_append] at hmem
          rcases hmem with hnow | hlater
          · have hle := first_le_of_mem_divideLine hopen hnow
            omega
          · have hk : segment.first = i + 1 + k := by omega
            have hrest := ih (hopen.divideLine line) hlater hk
            rw [divideFrom_cons, List.take_succ_cons, List.drop_succ_cons, divideFrom_cons, hrest,
              List.append_assoc, Nat.add_assoc, Nat.add_comm 1]

/-! ## Line numbers do not matter -/

namespace Segment

theorem shift_injective (n : Nat) : Function.Injective (shift n) := by
  rintro ⟨first, last, code⟩ ⟨first', last', code'⟩ heq
  simpa [shift] using heq

theorem ofLines_shift (i n : Nat) {texts : List Text} (hne : texts ≠ []) :
    (ofLines i texts).shift n = ofLines (i + n) texts := by
  have hpos := List.length_pos_iff.mpr hne
  simp only [ofLines, shift, mk.injEq, and_true, true_and]
  omega

end Segment

namespace Draft

def shift (n : Nat) (draft : Draft) : Draft := { draft with start := draft.start + n }

theorem takes_shift_iff {n : Nat} {draft moved : Draft} :
    (draft.shift n).Takes mode markers line moved ↔
      ∃ next, draft.Takes mode markers line next ∧ next.shift n = moved := by
  constructor
  · intro htakes
    cases htakes with
    | unfinished hscan => exact ⟨_, .unfinished hscan, rfl⟩
    | held hscan hskip => exact ⟨_, .held hscan hskip, rfl⟩
    | inside hscan hkeep hbase hindent => exact ⟨_, .inside hscan hkeep hbase hindent, rfl⟩
    | decorated hscan hkeep hbase hopens hdecorators =>
        exact ⟨_, .decorated hscan hkeep hbase hopens hdecorators, rfl⟩
    | indented hscan hkeep hbase hplain halone hindent =>
        exact ⟨_, .indented hscan hkeep hbase hplain halone hindent, rfl⟩
  · rintro ⟨next, htakes, rfl⟩
    cases htakes with
    | unfinished hscan => exact .unfinished hscan
    | held hscan hskip => exact .held hscan hskip
    | inside hscan hkeep hbase hindent => exact .inside hscan hkeep hbase hindent
    | decorated hscan hkeep hbase hopens hdecorators =>
        exact .decorated hscan hkeep hbase hopens hdecorators
    | indented hscan hkeep hbase hplain halone hindent =>
        exact .indented hscan hkeep hbase hplain halone hindent

theorem accept_shift (n : Nat) (draft : Draft) (line : Text) :
    (draft.shift n).accept mode markers line =
      (draft.accept mode markers line).map (shift n) := by
  ext moved
  rw [accept_eq_some_iff, takes_shift_iff, Option.map_eq_some_iff]
  simp only [accept_eq_some_iff]

theorem close_shift (n : Nat) {draft : Draft} (hne : draft.lines ≠ []) :
    (draft.shift n).close = draft.close.shift n :=
  (Segment.ofLines_shift draft.start n hne).symm

end Draft

theorem startLine_shift (n : Nat) :
    startLine mode markers (i + n) line =
      ((startLine mode markers i line).1.map (Segment.shift n),
        (startLine mode markers i line).2.map (Draft.shift n)) := by
  unfold startLine
  split
  · rfl
  · split
    · rfl
    · split
      · simp [Segment.ofLines, Segment.shift]
      · rfl

theorem divideLine_shift (n : Nat) (hopen : OpenAt mode markers i open?) :
    divideLine mode markers (open?.map (Draft.shift n)) (i + n) line =
      ((divideLine mode markers open? i line).1.map (Segment.shift n),
        (divideLine mode markers open? i line).2.map (Draft.shift n)) := by
  cases open? with
  | none => exact startLine_shift n
  | some draft =>
      have hclose := Draft.close_shift n (hopen draft rfl).1.sound.ne_nil
      cases haccept : draft.accept mode markers line <;>
        simp [divideLine, Draft.accept_shift, haccept, startLine_shift, hclose]

theorem divideFrom_shift (n : Nat) (hopen : OpenAt mode markers i open?) (lines : List Text) :
    divideFrom mode markers (open?.map (Draft.shift n)) (i + n) lines =
      (divideFrom mode markers open? i lines).map (Segment.shift n) := by
  induction lines generalizing open? i with
  | nil =>
      cases open? with
      | none => rfl
      | some draft =>
          have hclose := Draft.close_shift n (hopen draft rfl).1.sound.ne_nil
          simp [divideFrom, hclose]
  | cons line rest ih =>
      have hrest := ih (hopen.divideLine line)
      rw [Nat.add_right_comm] at hrest
      simp only [divideFrom_cons, divideLine_shift n hopen, hrest, List.map_append]

theorem divideFrom_none_shift (i n : Nat) (lines : List Text) :
    (divideFrom mode markers none i lines).map (Segment.shift n) =
      divideFrom mode markers none (i + n) lines :=
  (divideFrom_shift n .none lines).symm

theorem divideFrom_none_eq (i : Nat) (lines : List Text) :
    divideFrom mode markers none i lines = (divide mode markers lines).map (Segment.shift i) := by
  rw [divide, divideFrom_none_shift, Nat.zero_add]

/-! ## A segment by itself -/

namespace Draft

/-- Reading what a draft has seen brings the draft up again. -/
theorem Grown.readLines_seen {draft : Draft} (hgrown : draft.Grown mode markers) :
    readLines mode markers none draft.start draft.seen = ([], some draft) := by
  induction hgrown with
  | header hkeep hopens => simp [readLines, divideLine, startLine, hkeep, hopens, begin, seen]
  | plain hkeep hplain halone =>
      simp [readLines, divideLine, startLine, hkeep, hplain, halone, begin, seen]
  | takes _ htakes ih =>
      have haccept := accept_eq_some_iff.mpr htakes
      rw [htakes.start_eq, htakes.seen_eq, readLines_append, ih]
      simp [readLines, divideLine, haccept]

/-- The lines of a draft make the same segment without those held back. -/
theorem Grown.divideFrom_lines {draft : Draft} (hgrown : draft.Grown mode markers) :
    divideFrom mode markers none draft.start draft.lines = [draft.close] := by
  have hall : ∀ {draft : Draft}, draft.Grown mode markers → draft.held = [] →
      divideFrom mode markers none draft.start draft.lines = [draft.close] := by
    intro draft hgrown hheld
    have hseen := hgrown.readLines_seen
    rw [seen, hheld, List.append_nil] at hseen
    rw [divideFrom_eq_readLines, hseen]
    rfl
  induction hgrown with
  | header hkeep hopens => exact hall (.header hkeep hopens) rfl
  | plain hkeep hplain halone => exact hall (.plain hkeep hplain halone) rfl
  | takes hgrown htakes ih =>
      have hnext := hall (.takes hgrown htakes)
      cases htakes with
      | held => exact ih
      | unfinished | inside | decorated | indented => exact hnext rfl

end Draft

theorem Taken.divide_texts {texts after : List Text} (htaken : Taken mode markers texts after) :
    divide mode markers texts = [Segment.ofLines 0 texts] := by
  cases htaken with
  | alone hkeep hplain halone =>
      simp [divide, divideFrom, divideLine, startLine, hkeep, hplain, halone]
  | @grown draft _ hgrown =>
      -- The draft may have begun anywhere; its line numbers are shifted away.
      apply List.map_injective_iff.mpr (Segment.shift_injective draft.start)
      rw [← divideFrom_none_eq, hgrown.divideFrom_lines, List.map_singleton,
        Segment.ofLines_shift 0 _ hgrown.sound.ne_nil, Nat.zero_add, Draft.close]

/-- Dividing can be cut in front of any segment: the lines before it and the
lines from it on are divided apart, and so is the segment by itself. -/
theorem divide_at_segment {lines : List Text} (hfree : ∀ line ∈ lines, '\n' ∉ line)
    {segment : Segment} (hmem : segment ∈ divide mode markers lines) :
    let own := (lines.drop segment.first).take (segment.last + 1 - segment.first)
    divide mode markers lines =
        divide mode markers (lines.take segment.first) ++
          (divide mode markers (lines.drop segment.first)).map (Segment.shift segment.first) ∧
      own = segment.texts ∧
      divide mode markers own = [⟨0, segment.last - segment.first, segment.code⟩] := by
  obtain ⟨before, texts, after, hlines, hsegment, htaken⟩ :=
    (Layout.divide_layout mode markers lines).exists_cut hmem
  have hpos := List.length_pos_iff.mpr htaken.ne_nil
  have hfirst : segment.first = before.length := by simp [hsegment, Segment.ofLines]
  have hlast : segment.last + 1 = before.length + texts.length := by
    simp only [hsegment, Segment.ofLines]
    omega
  have hown : (lines.drop segment.first).take (segment.last + 1 - segment.first) = texts := by
    rw [hlines, hfirst, hlast, Nat.add_sub_cancel_left, List.drop_left, List.take_left]
  have htexts : segment.texts = texts := by
    rw [hsegment]
    exact Segment.texts_ofLines htaken.ne_nil fun line hline => hfree line (by simp [hlines, hline])
  have hsingle : Segment.ofLines 0 texts = ⟨0, segment.last - segment.first, segment.code⟩ := by
    simp only [hsegment, Segment.ofLines, Segment.mk.injEq, true_and, and_true]
    omega
  refine ⟨?_, hown.trans htexts.symm, ?_⟩
  · have happend := divideFrom_eq_append .none hmem (Nat.zero_add _).symm
    rw [Nat.zero_add, divideFrom_none_eq segment.first] at happend
    exact happend
  · rw [hown, ← hsingle]
    exact htaken.divide_texts

/-- The line that closes a class starts the next segment, which goes on over a
comment inside its bracket. -/
theorem divide_at_segment_behind_class :
    let lines := ["@a".toList, "class A:".toList, "    x = 1".toList, [], "y = [".toList,
      "# c".toList, "  1]".toList, "# end".toList]
    let segment : Segment := ⟨4, 6, "y = [\n# c\n  1]".toList⟩
    (∀ line ∈ lines, '\n' ∉ line) ∧ segment ∈ divide .auto .default lines ∧
      divide .auto .default lines =
        divide .auto .default (lines.take 4) ++
          (divide .auto .default (lines.drop 4)).map (Segment.shift 4) ∧
      divide .auto .default ["y = [".toList, "# c".toList, "  1]".toList] =
        [⟨0, 2, segment.code⟩] := by
  intro lines segment
  have hfree : ∀ line ∈ lines, '\n' ∉ line := by decide
  have hmem : segment ∈ divide .auto .default lines := by decide
  have hcut := divide_at_segment hfree hmem
  exact ⟨hfree, hmem, hcut.1, hcut.2.2⟩

/-! ## A layout is unique -/

/-- Lines to be skipped make no segment. -/
theorem divideFrom_of_isSkippable {skipped : List Text}
    (hskip : ∀ line ∈ skipped, isSkippable markers line = true) (i : Nat) (rest : List Text) :
    divideFrom mode markers none i (skipped ++ rest) =
      divideFrom mode markers none (i + skipped.length) rest := by
  induction skipped generalizing i with
  | nil => rfl
  | cons line skipped ih =>
      have hline := hskip line List.mem_cons_self
      rw [List.cons_append, divideFrom_cons]
      simp only [divideLine, startLine, hline, if_true, List.nil_append]
      rw [ih (fun later hlater => hskip later (List.mem_cons_of_mem _ hlater)), List.length_cons,
        Nat.add_assoc, Nat.add_comm 1]

/-- A draft that does not accept the next line is closed, and the lines from
there on start afresh. -/
theorem divideFrom_of_refused {draft : Draft} {rest : List Text}
    (hrefused : ∀ next ∈ rest.head?, draft.accept mode markers next = none) (i : Nat) :
    divideFrom mode markers (some draft) i rest =
      draft.close :: divideFrom mode markers none i rest := by
  cases rest with
  | nil => rfl
  | cons line rest =>
      have hline : ∀ open? ∈ some draft, open?.accept mode markers line = none := by
        simpa using hrefused line rfl
      rw [divideFrom_cons, divideLine_of_refused hline]
      rfl

theorem Draft.Grown.divideFrom_lines_append {draft : Draft} (hgrown : draft.Grown mode markers)
    {rest : List Text} (hrefused : ∀ next ∈ rest.head?, draft.accept mode markers next = none) :
    divideFrom mode markers none draft.start (draft.lines ++ (draft.held ++ rest)) =
      draft.close ::
        divideFrom mode markers none (draft.start + draft.lines.length) (draft.held ++ rest) := by
  rw [← List.append_assoc, ← seen, divideFrom_append, hgrown.readLines_seen, List.nil_append,
    divideFrom_of_refused hrefused, divideFrom_of_isSkippable hgrown.sound.held_skippable, seen,
    List.length_append, Nat.add_assoc]

/-- What is taken as one segment is one, wherever it stands. -/
theorem Taken.divideFrom_append {texts after : List Text} (htaken : Taken mode markers texts after)
    (i : Nat) :
    divideFrom mode markers none i (texts ++ after) =
      Segment.ofLines i texts :: divideFrom mode markers none (i + texts.length) after := by
  cases htaken with
  | alone hkeep hplain halone =>
      simp [divideFrom_cons, divideLine, startLine, hkeep, hplain, halone]
  | @grown draft rest hgrown hrefused =>
      -- The draft may have begun anywhere; both places are reached from the
      -- start of a document.
      have hne := hgrown.sound.ne_nil
      have hstart : divide mode markers (draft.lines ++ (draft.held ++ rest)) =
          Segment.ofLines 0 draft.lines ::
            divideFrom mode markers none draft.lines.length (draft.held ++ rest) := by
        apply List.map_injective_iff.mpr (Segment.shift_injective draft.start)
        rw [← divideFrom_none_eq, hgrown.divideFrom_lines_append hrefused, List.map_cons,
          Segment.ofLines_shift 0 draft.start hne, divideFrom_none_shift, Nat.zero_add,
          Nat.add_comm, Draft.close]
      rw [divideFrom_none_eq, hstart, List.map_cons, Segment.ofLines_shift 0 i hne,
        divideFrom_none_shift, Nat.zero_add, Nat.add_comm]

/-- Lines can be laid out in one way only. -/
theorem Layout.eq_divideFrom {lines : List Text} {segments : List Segment}
    (hlayout : Layout mode markers i lines segments) :
    segments = divideFrom mode markers none i lines := by
  induction hlayout with
  | nil => rfl
  | @skip i line rest _ hskip _ ih =>
      have hline : ∀ other ∈ [line], isSkippable markers other = true := by simpa using hskip
      rw [ih]
      exact (divideFrom_of_isSkippable hline i rest).symm
  | segment htaken _ ih => rw [htaken.divideFrom_append, ih]

end InlineEval
