import InlineEval.Segment.Division
import Mathlib.Data.List.Basic

/-! # Reading a document piece by piece

Lines already read matter to the lines behind them only through the draft that
they leave open. So a document may be divided in two pieces, one after the
other, and of what the first piece completes nothing is ever taken back.
-/

namespace InlineEval

open Text

variable {mode : Mode} {markers : MarkerSet}

/-- What lines amount to while more may follow: the segments that they
complete, and the draft that stays open behind them. -/
def readLines (mode : Mode) (markers : MarkerSet) :
    Option Draft → Nat → List Text → List Segment × Option Draft
  | open?, _, [] => ([], open?)
  | open?, i, line :: rest =>
      let (segments, next) := divideLine mode markers open? i line
      let (later, final) := readLines mode markers next (i + 1) rest
      (segments ++ later, final)

theorem readLines_cons (open? : Option Draft) (i : Nat) (line : Text) (rest : List Text) :
    readLines mode markers open? i (line :: rest) =
      ((divideLine mode markers open? i line).1 ++
          (readLines mode markers (divideLine mode markers open? i line).2 (i + 1) rest).1,
        (readLines mode markers (divideLine mode markers open? i line).2 (i + 1) rest).2) := rfl

theorem readLines_append (open? : Option Draft) (i : Nat) (first rest : List Text) :
    readLines mode markers open? i (first ++ rest) =
      ((readLines mode markers open? i first).1 ++
          (readLines mode markers (readLines mode markers open? i first).2 (i + first.length)
            rest).1,
        (readLines mode markers (readLines mode markers open? i first).2 (i + first.length)
          rest).2) := by
  induction first generalizing open? i with
  | nil => simp [readLines]
  | cons line first ih =>
      simp [readLines_cons, ih, Nat.add_assoc, Nat.add_comm 1]

theorem divideFrom_append (open? : Option Draft) (i : Nat) (first rest : List Text) :
    divideFrom mode markers open? i (first ++ rest) =
      (readLines mode markers open? i first).1 ++
        divideFrom mode markers (readLines mode markers open? i first).2 (i + first.length)
          rest := by
  induction first generalizing open? i with
  | nil => simp [readLines]
  | cons line first ih =>
      simp [divideFrom_cons, readLines_cons, ih, Nat.add_assoc, Nat.add_comm 1]

/-- At the end of the document the draft that is open makes the last segment. -/
theorem divideFrom_eq_readLines (open? : Option Draft) (i : Nat) (lines : List Text) :
    divideFrom mode markers open? i lines =
      (readLines mode markers open? i lines).1 ++
        (readLines mode markers open? i lines).2.toList.map Draft.close := by
  have happend : divideFrom mode markers open? i (lines ++ []) = _ :=
    divideFrom_append open? i lines []
  rwa [List.append_nil] at happend

/-- All segments of the first lines but the last one stand, whatever lines
follow. -/
theorem dropLast_divide_prefix {shared lines : List Text} (hshared : shared <+: lines) :
    (divide mode markers shared).dropLast <+: divide mode markers lines := by
  obtain ⟨rest, rfl⟩ := hshared
  have hcompleted : (divide mode markers shared).dropLast <+:
      (readLines mode markers none 0 shared).1 := by
    rw [divide, divideFrom_eq_readLines]
    cases (readLines mode markers none 0 shared).2 with
    | none => simpa using List.dropLast_prefix _
    | some draft => simp
  refine hcompleted.trans ?_
  rw [divide, divideFrom_append]
  exact List.prefix_append _ _

end InlineEval
