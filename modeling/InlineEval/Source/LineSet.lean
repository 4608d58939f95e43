import InlineEval.Text.Basic

/-!
# Sets of lines

A finite set of line indexes, kept as an ascending list, so that its members
in a range are found in the order of the lines.
-/

namespace InlineEval

/-- A finite set of line indexes in ascending order. -/
structure LineSet where
  toList : List Nat
  ascending : toList.Pairwise (· < ·)
  deriving DecidableEq

namespace LineSet

def empty : LineSet := ⟨[], List.Pairwise.nil⟩

instance : Membership Nat LineSet := ⟨fun lines i => i ∈ lines.toList⟩

def isEmpty (lines : LineSet) : Bool := lines.toList.isEmpty

/-- An ascending list with one more member. -/
def insertSorted (i : Nat) : List Nat → List Nat
  | [] => [i]
  | j :: rest => if i < j then i :: j :: rest else if i = j then j :: rest
      else j :: insertSorted i rest

theorem mem_insertSorted {i k : Nat} {lines : List Nat} :
    k ∈ insertSorted i lines ↔ k = i ∨ k ∈ lines := by
  induction lines with
  | nil => simp [insertSorted]
  | cons j rest ih =>
      simp only [insertSorted]
      split
      · simp
      · split
        next heq => simp [heq]
        next => simp [ih, or_left_comm]

theorem insertSorted_ascending (i : Nat) {lines : List Nat} (h : lines.Pairwise (· < ·)) :
    (insertSorted i lines).Pairwise (· < ·) := by
  induction lines with
  | nil => simp [insertSorted]
  | cons j rest ih =>
      obtain ⟨hj, hrest⟩ := List.pairwise_cons.1 h
      simp only [insertSorted]
      split
      next hlt =>
        refine List.pairwise_cons.2 ⟨?_, h⟩
        intro k hk
        rcases List.mem_cons.1 hk with rfl | hk
        · exact hlt
        · exact Nat.lt_trans hlt (hj k hk)
      next hge =>
        split
        · exact h
        next hne =>
          refine List.pairwise_cons.2 ⟨?_, ih hrest⟩
          intro k hk
          rcases mem_insertSorted.1 hk with rfl | hk
          · omega
          · exact hj k hk

def insert (i : Nat) (lines : LineSet) : LineSet :=
  ⟨insertSorted i lines.toList, insertSorted_ascending i lines.ascending⟩

def ofList (indexes : List Nat) : LineSet := indexes.foldr insert empty

/-- The members from `first` to `last`, both included, in ascending order. -/
def between (lines : LineSet) (first last : Nat) : List Nat :=
  lines.toList.filter fun i => first ≤ i && i ≤ last

theorem mem_ofList {i : Nat} {indexes : List Nat} : i ∈ ofList indexes ↔ i ∈ indexes := by
  induction indexes with
  | nil => simp [ofList, empty, Membership.mem]
  | cons j rest ih =>
      have hstep : i ∈ ofList (j :: rest) ↔ i = j ∨ i ∈ ofList rest := by
        simp only [ofList, List.foldr_cons]
        exact mem_insertSorted
      rw [hstep, ih, List.mem_cons]

theorem mem_between {lines : LineSet} {first last i : Nat} :
    i ∈ lines.between first last ↔ i ∈ lines ∧ first ≤ i ∧ i ≤ last := by
  simp only [between, List.mem_filter, Bool.and_eq_true, decide_eq_true_eq]
  exact Iff.rfl

theorem between_ascending (lines : LineSet) (first last : Nat) :
    (lines.between first last).Pairwise (· < ·) :=
  lines.ascending.filter _

end LineSet

end InlineEval
