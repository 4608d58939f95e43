import InlineEval.Annotation.Placement
import InlineEval.Proofs.Source.Numbered

/-! # Where annotations are placed

In both modes the annotations of a segment stand on its lines and are values or
one error. Explicit mode takes some of the marked lines, each of them once;
auto mode takes the last line.
-/

namespace InlineEval.Annotation

open Text

/-- Annotations that are made for some of several lines stand on these. -/
theorem map_line_filterMap_sublist {make : Nat → Option Annotation}
    (hline : ∀ i note, make i = some note → note.line = i) (lines : List Nat) :
    ((lines.filterMap make).map line).Sublist lines := by
  induction lines with
  | nil => exact List.Sublist.slnil
  | cons i rest ih =>
      cases hmake : make i with
      | none =>
          rw [List.filterMap_cons_none hmake]
          exact ih.trans (List.sublist_cons_self i rest)
      | some note =>
          rw [List.filterMap_cons_some hmake, List.map_cons, hline i note hmake]
          exact ih.cons_cons i

/-- What is placed for a segment. -/
structure Placed (mode : Mode) (segment : Segment) (marked : LineSet) (notes : List Annotation) :
    Prop where
  inside : ∀ note ∈ notes, segment.contains note.line = true
  shown : ∀ note ∈ notes, note.style = .value ∨ note.style = .error
  /-- In explicit mode, some of the marked lines of the segment, each once. -/
  explicit_lines : mode = .explicit →
    (notes.map line).Sublist (marked.between segment.first segment.last)
  auto_lines : mode = .auto → ∀ note ∈ notes, note.line = segment.last

namespace Placed

variable {mode : Mode} {segment : Segment} {marked : LineSet} {notes : List Annotation}

theorem explicit_marked (hplaced : Placed mode segment marked notes) (hmode : mode = .explicit)
    {note : Annotation} (hnote : note ∈ notes) : note.line ∈ marked :=
  (LineSet.mem_between.mp
    ((hplaced.explicit_lines hmode).subset (List.mem_map_of_mem hnote))).1

theorem explicit_ascending (hplaced : Placed mode segment marked notes)
    (hmode : mode = .explicit) :
    notes.Pairwise fun earlier later => earlier.line < later.line :=
  List.pairwise_map.mp ((marked.between_ascending segment.first segment.last).sublist
    (hplaced.explicit_lines hmode))

theorem ascending (hplaced : Placed mode segment marked notes) :
    notes.Pairwise fun earlier later => earlier.line ≤ later.line := by
  cases mode with
  | explicit => exact (hplaced.explicit_ascending rfl).imp Nat.le_of_lt
  | auto =>
      apply List.pairwise_iff_forall_sublist.mpr
      intro earlier later hpair
      have hearlier := hplaced.auto_lines rfl earlier (hpair.subset List.mem_cons_self)
      have hlater := hplaced.auto_lines rfl later
        (hpair.subset (List.mem_cons_of_mem _ List.mem_cons_self))
      omega

end Placed

variable {outcome : Outcome} {segment : Segment} {marked : LineSet} {notes : List Annotation}

/-- What a marked line of a segment is annotated with after a success. -/
def valueOn (outcome : Outcome) (segment : Segment) (i : Nat) : Option Annotation :=
  (segment.line? i).bind fun line =>
    (explicitText? outcome (i == segment.last) line).map (value i)

theorem valueOn_eq_some {i : Nat} {note : Annotation}
    (hnote : valueOn outcome segment i = some note) : note.line = i ∧ note.style = .value := by
  obtain ⟨text, -, hvalue⟩ := Option.bind_eq_some_iff.mp hnote
  obtain ⟨shown, -, rfl⟩ := Option.map_eq_some_iff.mp hvalue
  exact ⟨rfl, rfl⟩

theorem map_line_filterMap_valueOn_sublist (outcome : Outcome) (segment : Segment)
    (lines : List Nat) : ((lines.filterMap (valueOn outcome segment)).map line).Sublist lines :=
  map_line_filterMap_sublist (fun _ _ hnote => (valueOn_eq_some hnote).1) lines

theorem style_of_mem_filterMap_valueOn {lines : List Nat} {note : Annotation}
    (hnote : note ∈ lines.filterMap (valueOn outcome segment)) : note.style = .value := by
  obtain ⟨i, -, hvalue⟩ := List.mem_filterMap.mp hnote
  exact (valueOn_eq_some hvalue).2

/-- A failure is shown on the first marked line; a success shows on each marked
line what there is to show. -/
theorem explicit_cases (hnotes : explicit outcome segment marked = .ok notes) :
    let lines := marked.between segment.first segment.last
    (∃ message, outcome.errorMessage = some message ∧
        notes = lines.head?.toList.map fun i => error i message) ∨
      outcome.errorMessage = none ∧ notes = lines.filterMap (valueOn outcome segment) := by
  unfold explicit at hnotes
  split at hnotes
  next hinverted => cases hnotes
  next hrange =>
    split at hnotes
    next message hfailed =>
      cases hnotes
      exact .inl ⟨message, hfailed, rfl⟩
    next hsucceeded =>
      cases hnotes
      exact .inr ⟨hsucceeded, rfl⟩

theorem explicit_placed (hnotes : explicit outcome segment marked = .ok notes) :
    Placed .explicit segment marked notes := by
  have hlines : (notes.map line).Sublist (marked.between segment.first segment.last) ∧
      ∀ note ∈ notes, note.style = .value ∨ note.style = .error := by
    rcases explicit_cases hnotes with ⟨message, -, rfl⟩ | ⟨-, rfl⟩
    · constructor
      · cases marked.between segment.first segment.last with
        | nil => exact List.Sublist.slnil
        | cons i rest => exact (List.nil_sublist rest).cons_cons i
      · intro note hnote
        obtain ⟨i, -, rfl⟩ := List.mem_map.mp hnote
        exact .inr rfl
    · exact ⟨map_line_filterMap_valueOn_sublist outcome segment _,
        fun note hnote => .inl (style_of_mem_filterMap_valueOn hnote)⟩
  exact
    { inside := by
        intro note hnote
        have hbetween := hlines.1.subset (List.mem_map_of_mem hnote)
        exact Segment.contains_iff.mpr (LineSet.mem_between.mp hbetween).2
      shown := hlines.2
      explicit_lines := fun _ => hlines.1
      auto_lines := by
        intro hmode
        cases hmode }

theorem auto_placed (hrange : segment.first ≤ segment.last) :
    Placed .auto segment marked (auto outcome segment) := by
  have hnotes : ∀ note ∈ auto outcome segment,
      note.line = segment.last ∧ (note.style = .value ∨ note.style = .error) := by
    intro note hnote
    unfold auto at hnote
    split at hnote
    next message hfailed =>
      rw [List.mem_singleton.mp hnote]
      exact ⟨rfl, .inr rfl⟩
    next hsucceeded =>
      obtain ⟨text, -, rfl⟩ := List.mem_map.mp hnote
      exact ⟨rfl, .inl rfl⟩
  exact
    { inside := by
        intro note hnote
        rw [(hnotes note hnote).1]
        exact Segment.contains_iff.mpr ⟨hrange, Nat.le_refl _⟩
      shown := fun note hnote => (hnotes note hnote).2
      explicit_lines := by
        intro hmode
        cases hmode
      auto_lines := fun _ note hnote => (hnotes note hnote).1 }

/-- Of all marked lines only those of the segment itself matter. -/
theorem place_congr {mode : Mode} {other : LineSet} (hrange : segment.first ≤ segment.last)
    (hbetween : marked.between segment.first segment.last =
      other.between segment.first segment.last) :
    place mode outcome segment marked = place mode outcome segment other := by
  cases mode with
  | explicit => simp [place, explicit, hbetween, Nat.not_lt.mpr hrange]
  | auto => rfl

/-- Whatever is placed for a segment stands where its mode allows. -/
theorem place_placed {mode : Mode} (hrange : segment.first ≤ segment.last)
    (hnotes : place mode outcome segment marked = .ok notes) :
    Placed mode segment marked notes := by
  cases mode with
  | explicit => exact explicit_placed hnotes
  | auto =>
      cases hnotes
      exact auto_placed hrange

end InlineEval.Annotation
