import InlineEval.Proofs.Segment.Growth
import InlineEval.Proofs.Source.Statement

/-! # The stages of a draft

A draft went through one stage for each line that it has seen. What is
unfinished at a stage, and whether a compound statement is open, can be told
from the lines seen until then. With that, whether a line belongs to a segment
is a question about the lines of the document alone.
-/

namespace InlineEval

open Text

namespace Draft

variable {mode : Mode} {markers : MarkerSet}

/-- All lines that the draft has seen: its own and those it holds back. -/
def seen (draft : Draft) : List Text := draft.lines ++ draft.held

@[simp]
theorem seen_begin (i : Nat) (base : Option Nat) (line : Text) :
    (begin i base line).seen = [line] := rfl

theorem Takes.seen_eq {draft next : Draft} {line : Text}
    (htakes : draft.Takes mode markers line next) : next.seen = draft.seen ++ [line] :=
  (accept_lines (accept_eq_some_iff.mpr htakes)).2

/-- A line changes what is open only as the header behind decorators. -/
theorem Takes.base_cases {draft next : Draft} {line : Text}
    (htakes : draft.Takes mode markers line next) :
    next.base = draft.base ∨
      draft.base = none ∧ opensCompound (trim line) = true ∧ draft.onlyDecorators = true := by
  cases htakes with
  | unfinished | held | inside | indented => exact .inl rfl
  | decorated _ _ hnone hopens hdecorators => exact .inr ⟨hnone, hopens, hdecorators⟩

theorem Takes.base_eq_some {draft next : Draft} {line : Text} {base : Nat}
    (htakes : draft.Takes mode markers line next) (hbase : draft.base = some base) :
    next.base = some base := by
  rcases htakes.base_cases with hsame | ⟨hnone, _⟩
  · rw [hsame, hbase]
  · rw [hnone] at hbase
    cases hbase

namespace Grown

theorem scan_eq {draft : Draft} (hgrown : draft.Grown mode markers) :
    draft.scan = Scanner.fresh.feedAll draft.seen :=
  hgrown.sound.scan_eq_append_held

theorem seen_ne_nil {draft : Draft} (hgrown : draft.Grown mode markers) : draft.seen ≠ [] :=
  List.append_ne_nil_of_left_ne_nil hgrown.sound.ne_nil draft.held

/-- Every line but the first was taken by a stage of the draft which had seen
exactly the lines before it. What was open behind the line is open still. -/
theorem stage {draft : Draft} (hgrown : draft.Grown mode markers) {before after : List Text}
    {line : Text} (hseen : draft.seen = before ++ line :: after) (hbefore : before ≠ []) :
    ∃ stage next : Draft, stage.Grown mode markers ∧ stage.seen = before ∧
      stage.Takes mode markers line next ∧
      ∀ base, next.base = some base → draft.base = some base := by
  -- From the end of the draft backwards, until its last line is the one asked for.
  induction hgrown generalizing after with
  | header | plain =>
      rw [seen_begin, List.cons_eq_append_iff] at hseen
      rcases hseen with ⟨rfl, _⟩ | ⟨_, rfl, hnil⟩
      · exact absurd rfl hbefore
      · simp at hnil
  | @takes stage next last hgrown htakes ih =>
      rw [htakes.seen_eq] at hseen
      rcases List.eq_nil_or_concat after with rfl | ⟨inner, final, rfl⟩
      · obtain ⟨rfl, hlast⟩ := List.append_inj' hseen rfl
        cases hlast
        exact ⟨stage, next, hgrown, rfl, htakes, fun _ => id⟩
      · rw [List.concat_eq_append, ← List.cons_append, ← List.append_assoc] at hseen
        obtain ⟨hinner, _⟩ := List.append_inj' hseen rfl
        obtain ⟨earlier, later, hearlier, hbefore, htaken, hopen⟩ := ih hinner
        exact ⟨earlier, later, hearlier, hbefore, htaken,
          fun base hbase => htakes.base_eq_some (hopen base hbase)⟩

/-! ## Which compound statement is open -/

theorem head?_seen {draft next : Draft} {line : Text} (hgrown : draft.Grown mode markers)
    (htakes : draft.Takes mode markers line next) : next.seen.head? = draft.seen.head? := by
  rw [htakes.seen_eq]
  exact List.head?_append_of_ne_nil draft.seen hgrown.seen_ne_nil

theorem base_of_header {draft : Draft} (hgrown : draft.Grown mode markers) {first : Text}
    (hfirst : draft.seen.head? = some first) (hopens : opensCompound (trim first) = true) :
    draft.base = some (indentation first) := by
  induction hgrown with
  | header =>
      cases hfirst
      rfl
  | plain _ hplain =>
      cases hfirst
      rw [hplain] at hopens
      cases hopens
  | takes hgrown htakes ih =>
      rw [hgrown.head?_seen htakes] at hfirst
      exact htakes.base_eq_some (ih hfirst)

/-- A draft that starts with any other statement holds no compound
statement, because only decorators take a header. -/
theorem base_eq_none {draft : Draft} (hgrown : draft.Grown mode markers) {first : Text}
    (hfirst : draft.seen.head? = some first) (hplain : opensCompound (trim first) = false)
    (hstatement : isDecoration first = false) : draft.base = none := by
  induction hgrown with
  | header _ hopens =>
      cases hfirst
      rw [hplain] at hopens
      cases hopens
  | plain => rfl
  | @takes draft next line hgrown htakes ih =>
      rw [hgrown.head?_seen htakes] at hfirst
      rcases htakes.base_cases with hsame | ⟨_, _, hdecorators⟩
      · rw [hsame, ih hfirst]
      · have hmem : first ∈ draft.lines := by
          rw [seen, List.head?_append_of_ne_nil _ hgrown.sound.ne_nil] at hfirst
          exact List.mem_of_mem_head? hfirst
        rw [onlyDecorators_eq, List.all_eq_true] at hdecorators
        rw [hdecorators first hmem] at hstatement
        cases hstatement

theorem base_eq_none_of_forall {draft : Draft} (hgrown : draft.Grown mode markers)
    (hplain : ∀ line ∈ draft.seen, opensCompound (trim line) = false) : draft.base = none := by
  induction hgrown with
  | @header _ line _ hopens =>
      rw [hplain line (List.mem_singleton_self line)] at hopens
      cases hopens
  | plain => rfl
  | @takes draft next line _ htakes ih =>
      rw [htakes.seen_eq] at hplain
      rcases htakes.base_cases with hsame | ⟨_, hopens, _⟩
      · rw [hsame, ih fun earlier hmem => hplain earlier (List.mem_append_left _ hmem)]
      · rw [hplain line (List.mem_append_right _ (List.mem_singleton_self line))] at hopens
        cases hopens

/-- A header that stands at the start of a statement opens its compound
statement, wherever in the draft that is. -/
theorem exists_base {draft : Draft} (hgrown : draft.Grown mode markers) {before after : List Text}
    {line : Text} (hseen : draft.seen = before ++ line :: after)
    (hfinished : (Scanner.fresh.feedAll before).continues = false)
    (hopens : opensCompound (trim line) = true) : ∃ base, draft.base = some base := by
  by_cases hbefore : before = []
  · subst hbefore
    have hfirst : draft.seen.head? = some line := by rw [hseen]; rfl
    exact ⟨_, hgrown.base_of_header hfirst hopens⟩
  · obtain ⟨stage, next, hstage, rfl, htakes, hopen⟩ := hgrown.stage hseen hbefore
    rw [← hstage.scan_eq] at hfinished
    cases htakes with
    | unfinished hscan =>
        rw [hfinished] at hscan
        cases hscan
    | held _ hskip =>
        rw [isSkippable_eq_false_of_opensCompound hopens] at hskip
        cases hskip
    | inside _ _ hbase => exact ⟨_, hopen _ hbase⟩
    | decorated => exact ⟨_, hopen _ rfl⟩
    | indented _ _ _ hplain =>
        rw [hplain] at hopens
        cases hopens

end Grown

/-! ## How far a draft reaches -/

/-- Only a line at the start of a statement is ever refused. -/
theorem accept_ne_none {draft : Draft} {line : Text}
    (haccept : draft.scan.continues = false → isSkippable markers line = false →
      draft.accept mode markers line ≠ none) : draft.accept mode markers line ≠ none := by
  cases hscan : draft.scan.continues with
  | true => simp [accept_eq_some_iff.mpr (.unfinished hscan)]
  | false =>
      cases hskip : isSkippable markers line with
      | true => simp [accept_eq_some_iff.mpr (.held hscan hskip)]
      | false => exact haccept hscan hskip

/-- A draft that does not accept the next line has seen all lines which it
would have accepted if it had come to them. -/
theorem prefix_seen {draft : Draft} {owned rest : List Text}
    (hrefused : ∀ next ∈ rest.head?, draft.accept mode markers next = none)
    (howned : owned <+: draft.seen ++ rest)
    (haccepts : ∀ line, draft.seen ++ [line] <+: owned →
      draft.accept mode markers line ≠ none) : owned <+: draft.seen := by
  rcases List.prefix_or_prefix_of_prefix howned (List.prefix_append draft.seen rest) with
    hbegins | ⟨more, rfl⟩
  · exact hbegins
  · rw [List.prefix_append_right_inj] at howned
    cases more with
    | nil => simp
    | cons line more =>
        obtain ⟨tail, rfl⟩ := howned
        have hline : draft.seen ++ [line] <+: draft.seen ++ line :: more := by
          rw [List.prefix_append_right_inj]
          exact List.prefix_append [line] more
        exact absurd (hrefused line rfl) (haccepts line hline)

/-- What a draft has seen are its own lines, but for lines to be skipped at
the end. -/
theorem Grown.prefix_lines {draft : Draft} (hgrown : draft.Grown mode markers)
    {owned : List Text} (howned : owned <+: draft.seen) :
    owned.rdropWhile (isSkippable markers) <+: draft.lines := by
  rcases List.prefix_or_prefix_of_prefix howned (List.prefix_append draft.lines draft.held) with
    hbegins | ⟨skipped, rfl⟩
  · exact (List.rdropWhile_prefix _ owned).trans hbegins
  · rw [seen, List.prefix_append_right_inj] at howned
    have hskipped : ∀ line ∈ skipped.reverse, isSkippable markers line = true := fun line hline =>
      hgrown.sound.held_skippable line (howned.mem (List.mem_reverse.mp hline))
    rw [List.rdropWhile, List.reverse_append, List.dropWhile_append_of_pos hskipped]
    exact List.rdropWhile_prefix _ draft.lines

end Draft

end InlineEval
