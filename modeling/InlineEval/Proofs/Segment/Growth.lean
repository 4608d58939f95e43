import InlineEval.Proofs.Segment.Skippable

/-! # The growth of a draft

Every draft begins with one line and grows by the lines that it accepts. What
holds of all drafts is shown once for the first line and once for each way to
take another one. The scanner is fed only the lines that are pushed, yet it is
always in the state that all lines of the draft leave behind, those held back
included, because lines are held back only while nothing is unfinished.
-/

namespace InlineEval

open Text

namespace Draft

variable {mode : Mode} {markers : MarkerSet}

/-- The ways in which a draft takes the next line. -/
inductive Takes (mode : Mode) (markers : MarkerSet) (draft : Draft) (line : Text) : Draft → Prop
  /-- An unfinished statement takes any line. -/
  | unfinished (hscan : draft.scan.continues = true) :
      Takes mode markers draft line (draft.push line)
  /-- It remains open whether the line belongs to the segment. -/
  | held (hscan : draft.scan.continues = false) (hskip : isSkippable markers line = true) :
      Takes mode markers draft line (draft.hold line)
  /-- The line stands inside a compound statement or goes on with it. -/
  | inside {base : Nat} (hscan : draft.scan.continues = false)
      (hkeep : isSkippable markers line = false) (hbase : draft.base = some base)
      (hindent : base < indentation line ∨
        (indentation line = base ∧ isClause (trim line) = true)) :
      Takes mode markers draft line (draft.push line)
  /-- The line is the header to which decorators belong. -/
  | decorated (hscan : draft.scan.continues = false)
      (hkeep : isSkippable markers line = false) (hbase : draft.base = none)
      (hopens : opensCompound (trim line) = true) (hdecorators : draft.onlyDecorators = true) :
      Takes mode markers draft line { draft.push line with base := some (indentation line) }
  /-- The line does not start at the margin. -/
  | indented (hscan : draft.scan.continues = false)
      (hkeep : isSkippable markers line = false) (hbase : draft.base = none)
      (hplain : opensCompound (trim line) = false)
      (halone : ¬ (mode = .explicit ∧ markers.marks line = true))
      (hindent : indentation line ≠ 0) :
      Takes mode markers draft line (draft.push line)

theorem accept_eq_some_iff {draft next : Draft} {line : Text} :
    draft.accept mode markers line = some next ↔ draft.Takes mode markers line next := by
  constructor
  · intro haccept
    unfold accept at haccept
    split at haccept
    next hscan =>
      cases haccept
      exact .unfinished hscan
    next hscan =>
      rw [Bool.not_eq_true] at hscan
      split at haccept
      next hskip =>
        cases haccept
        exact .held hscan hskip
      next hkeep =>
        rw [Bool.not_eq_true] at hkeep
        split at haccept
        next base hbase =>
          split at haccept
          next hindent =>
            cases haccept
            exact .inside hscan hkeep hbase hindent
          next => cases haccept
        next hbase =>
          split at haccept
          next hopens =>
            split at haccept
            next hdecorators =>
              cases haccept
              exact .decorated hscan hkeep hbase hopens hdecorators
            next => cases haccept
          next hplain =>
            split at haccept
            next => cases haccept
            next halone =>
              split at haccept
              next => cases haccept
              next hindent =>
                cases haccept
                rw [Bool.not_eq_true] at hplain
                exact .indented hscan hkeep hbase hplain halone hindent
  · intro htakes
    cases htakes with
    | unfinished hscan => simp [accept, hscan]
    | held hscan hskip => simp [accept, hscan, hskip]
    | inside hscan hkeep hbase hindent => simp [accept, hscan, hkeep, hbase, hindent]
    | decorated hscan hkeep hbase hopens hdecorators =>
        simp [accept, hscan, hkeep, hbase, hopens, hdecorators]
    | indented hscan hkeep hbase hplain halone hindent =>
        simp [accept, hscan, hkeep, hbase, hplain, halone, hindent]

/-- The drafts that come up in dividing a document. -/
inductive Grown (mode : Mode) (markers : MarkerSet) : Draft → Prop
  | header {i : Nat} {line : Text} (hkeep : isSkippable markers line = false)
      (hopens : opensCompound (trim line) = true) :
      Grown mode markers (begin i (some (indentation line)) line)
  | plain {i : Nat} {line : Text} (hkeep : isSkippable markers line = false)
      (hplain : opensCompound (trim line) = false)
      (halone : ¬ (mode = .explicit ∧ markers.marks line = true)) :
      Grown mode markers (begin i none line)
  | takes {draft next : Draft} {line : Text} (hgrown : Grown mode markers draft)
      (htakes : draft.Takes mode markers line next) : Grown mode markers next

/-- What all drafts have in common. -/
structure Sound (markers : MarkerSet) (draft : Draft) : Prop where
  ne_nil : draft.lines ≠ []
  head_kept : ∀ line ∈ draft.lines.head?, isSkippable markers line = false
  held_skippable : ∀ line ∈ draft.held, isSkippable markers line = true
  /-- Nothing is held back from an unfinished statement. -/
  held_of_continues : draft.scan.continues = true → draft.held = []
  scan_eq : draft.scan = Scanner.fresh.feedAll draft.lines
  /-- A line to be skipped comes last only if an unfinished statement took it. -/
  last_taken : ∀ line ∈ draft.lines.getLast?, isSkippable markers line = true →
    (Scanner.fresh.feedAll draft.lines.dropLast).continues = true

namespace Sound

theorem begin {i : Nat} {base : Option Nat} {line : Text}
    (hkeep : isSkippable markers line = false) : Sound markers (begin i base line) where
  ne_nil := List.cons_ne_nil line []
  head_kept first hfirst := by
    cases hfirst
    exact hkeep
  held_skippable first hfirst := by cases hfirst
  held_of_continues _ := rfl
  scan_eq := rfl
  last_taken last hlast hskip := by
    rw [begin_lines, List.getLast?_singleton, Option.mem_some_iff] at hlast
    subst hlast
    rw [hkeep] at hskip
    cases hskip

/-- The lines held back make no difference to the scanner. -/
theorem scan_eq_append_held {draft : Draft} (hsound : Sound markers draft) :
    draft.scan = Scanner.fresh.feedAll (draft.lines ++ draft.held) := by
  rw [Scanner.feedAll_append, ← hsound.scan_eq]
  cases hscan : draft.scan.continues with
  | true => rw [hsound.held_of_continues hscan]; rfl
  | false => exact (Scanner.feedAll_of_isSkippable hscan hsound.held_skippable).symm

/-- A line may be pushed if it is not to be skipped, or if a statement is
unfinished. -/
theorem push {draft : Draft} {line : Text} (hsound : Sound markers draft)
    (hallowed : isSkippable markers line = true → draft.scan.continues = true) :
    Sound markers (draft.push line) where
  ne_nil := by simp
  head_kept first hfirst := by
    obtain ⟨head, rest, hlines⟩ := List.exists_cons_of_ne_nil hsound.ne_nil
    simp only [push_lines, hlines, List.cons_append, List.head?_cons] at hfirst
    exact hsound.head_kept first (by rw [hlines]; exact hfirst)
  held_skippable first hfirst := by cases hfirst
  held_of_continues _ := rfl
  scan_eq := by
    rw [push_lines, Scanner.feedAll_append, ← hsound.scan_eq_append_held]
    rfl
  last_taken last hlast hskip := by
    rw [push_lines, List.getLast?_append] at hlast
    cases hlast
    rw [push_lines, List.dropLast_concat, ← hsound.scan_eq_append_held]
    exact hallowed hskip

theorem hold {draft : Draft} {line : Text} (hsound : Sound markers draft)
    (hscan : draft.scan.continues = false) (hskip : isSkippable markers line = true) :
    Sound markers (draft.hold line) where
  ne_nil := hsound.ne_nil
  head_kept := hsound.head_kept
  held_skippable first hfirst := by
    rw [hold_held, List.mem_append, List.mem_singleton] at hfirst
    rcases hfirst with hfirst | rfl
    · exact hsound.held_skippable first hfirst
    · exact hskip
  held_of_continues hcontinues := by
    change draft.scan.continues = true at hcontinues
    rw [hscan] at hcontinues
    cases hcontinues
  scan_eq := hsound.scan_eq
  last_taken := hsound.last_taken

/-- A line that is not to be skipped is not among those held back, so it stands
among those that come after them. -/
theorem exists_eq_held_append {draft : Draft} (hsound : Sound markers draft)
    {rest before after : List Text} {line : Text} (hkeep : isSkippable markers line = false)
    (hlines : draft.held ++ rest = before ++ line :: after) :
    ∃ between, before = draft.held ++ between ∧ rest = between ++ line :: after := by
  rcases cases_of_append_eq hlines with ⟨own, hheld, -⟩ | hbehind
  · rw [hsound.held_skippable line (by simp [hheld])] at hkeep
    cases hkeep
  · exact hbehind

/-- Whether a draft is sound does not depend on its base. -/
theorem rebase {draft : Draft} (hsound : Sound markers draft) (base : Option Nat) :
    Sound markers { draft with base } :=
  ⟨hsound.ne_nil, hsound.head_kept, hsound.held_skippable, hsound.held_of_continues,
    hsound.scan_eq, hsound.last_taken⟩

theorem takes {draft next : Draft} {line : Text} (hsound : Sound markers draft)
    (htakes : draft.Takes mode markers line next) : Sound markers next := by
  have hpush : isSkippable markers line = false → Sound markers (draft.push line) :=
    fun hkeep => hsound.push fun hskip => by simp [hkeep] at hskip
  cases htakes with
  | unfinished hscan => exact hsound.push fun _ => hscan
  | held hscan hskip => exact hsound.hold hscan hskip
  | inside _ hkeep => exact hpush hkeep
  | decorated _ hkeep => exact (hpush hkeep).rebase _
  | indented _ hkeep => exact hpush hkeep

end Sound

theorem Grown.sound {draft : Draft} (hgrown : Grown mode markers draft) :
    Sound markers draft := by
  induction hgrown with
  | header hkeep => exact Sound.begin hkeep
  | plain hkeep => exact Sound.begin hkeep
  | takes _ htakes ih => exact ih.takes htakes

end Draft

end InlineEval
