import InlineEval.Proofs.Text.Lines
import InlineEval.Segment.Basic
import InlineEval.Source.Document

/-! # Numbered lines

A document and a segment are seen alike, as lines that carry their indexes in
the document. Whatever part of a document is meant is then a selection of its
numbered lines by their indexes.
-/

namespace InlineEval

open Text

/-- Lines with their indexes, counted from `i`. -/
def numberedFrom (i : Nat) (lines : List Text) : List (Nat × Text) :=
  (lines.zipIdx i).map Prod.swap

theorem numberedFrom_append (i : Nat) (first second : List Text) :
    numberedFrom i (first ++ second) =
      numberedFrom i first ++ numberedFrom (i + first.length) second := by
  simp only [numberedFrom, List.zipIdx_append, List.map_append]

theorem mem_numberedFrom {i k : Nat} {line : Text} {lines : List Text} :
    (k, line) ∈ numberedFrom i lines ↔ i ≤ k ∧ lines[k - i]? = some line := by
  simp only [numberedFrom, List.mem_map, Prod.exists, Prod.swap_prod_mk, Prod.mk.injEq,
    List.mem_zipIdx_iff_le_and_getElem?_sub]
  constructor
  · rintro ⟨_, _, hline, rfl, rfl⟩
    exact hline
  · intro hline
    exact ⟨line, k, hline, rfl, rfl⟩

theorem index_of_mem_numberedFrom {i : Nat} {entry : Nat × Text} {lines : List Text}
    (hmem : entry ∈ numberedFrom i lines) : i ≤ entry.1 ∧ entry.1 < i + lines.length := by
  obtain ⟨hle, hline⟩ := mem_numberedFrom.mp hmem
  have hlt := (List.getElem?_eq_some_iff.mp hline).1
  omega

theorem numberedFrom_ascending (i : Nat) (lines : List Text) :
    (numberedFrom i lines).Pairwise fun earlier later => earlier.1 < later.1 := by
  induction lines generalizing i with
  | nil => exact List.Pairwise.nil
  | cons line rest ih =>
      refine List.Pairwise.cons ?_ (ih (i + 1))
      intro entry hentry
      exact (index_of_mem_numberedFrom hentry).1

/-- In ascending order, what a first test accepts stands in front of what a
second one accepts, if that is so for the keys they accept. -/
theorem filter_or_of_before {α : Type} {key : α → Nat} {entries : List α}
    {first second : Nat → Bool} (hbefore : ∀ i j, first i = true → second j = true → i < j)
    (hascending : entries.Pairwise fun earlier later => key earlier ≤ key later) :
    (entries.filter fun entry => first (key entry) || second (key entry)) =
      (entries.filter fun entry => first (key entry)) ++
        entries.filter fun entry => second (key entry) := by
  induction entries with
  | nil => rfl
  | cons entry rest ih =>
      obtain ⟨hentry, hrest⟩ := List.pairwise_cons.mp hascending
      by_cases hsecond : second (key entry) = true
      · -- From here on the first test accepts nothing any more.
        have hnone : ∀ later ∈ entry :: rest, ¬ first (key later) = true := by
          intro later hlater hwanted
          have hlt := hbefore (key later) (key entry) hwanted hsecond
          rcases List.mem_cons.mp hlater with rfl | hlater
          · omega
          · have hge := hentry later hlater
            omega
        have hfirst := hnone entry List.mem_cons_self
        have hdropped := List.filter_eq_nil_iff.mpr fun later hlater =>
          hnone later (List.mem_cons_of_mem _ hlater)
        simp [hfirst, hsecond, ih hrest, hdropped]
      · by_cases hfirst : first (key entry) = true <;> simp [hfirst, hsecond, ih hrest]

theorem map_snd_numberedFrom (i : Nat) (lines : List Text) :
    (numberedFrom i lines).map Prod.snd = lines := by
  have hswap : Prod.snd ∘ Prod.swap = (Prod.fst : Text × Nat → Text) := rfl
  rw [numberedFrom, List.map_map, hswap, List.zipIdx_map_fst]

namespace Segment

/-- The line with this index stands in the segment. -/
def contains (segment : Segment) (i : Nat) : Bool := segment.first ≤ i && i ≤ segment.last

theorem contains_iff {segment : Segment} {i : Nat} :
    segment.contains i = true ↔ segment.first ≤ i ∧ i ≤ segment.last := by
  simp [contains]

theorem contains_eq_false_iff {segment : Segment} {i : Nat} :
    segment.contains i = false ↔ i < segment.first ∨ segment.last < i := by
  rw [Bool.eq_false_iff, ne_eq, contains_iff]
  omega

theorem lines_eq (segment : Segment) :
    segment.lines = numberedFrom segment.first segment.texts := rfl

theorem texts_ofLines {i : Nat} {texts : List Text} (hne : texts ≠ [])
    (hfree : ∀ line ∈ texts, '\n' ∉ line) : (ofLines i texts).texts = texts :=
  split_joinLines hne hfree

end Segment

namespace Document

/-- No newline is left inside a line. -/
theorem newline_not_mem_ofText {t line : Text} (hline : line ∈ (ofText t).lines) :
    '\n' ∉ line := by
  unfold ofText at hline
  split at hline
  · cases hline
  · obtain ⟨piece, hpiece, rfl⟩ := List.mem_map.mp hline
    exact not_mem_dropCarriageReturn (not_mem_of_mem_split hpiece)

theorem isEmpty_marked_iff {doc : Document} {markers : MarkerSet} :
    (doc.marked markers).isEmpty = true ↔ ∀ line ∈ doc.lines, markers.marks line = false := by
  rw [LineSet.isEmpty, List.isEmpty_iff, List.eq_nil_iff_forall_not_mem]
  constructor
  · intro hnone line hline
    obtain ⟨i, hi⟩ := List.mem_iff_getElem?.mp hline
    rw [Bool.eq_false_iff]
    exact fun hmarks => hnone i (mem_marked.mpr ⟨line, hi, hmarks⟩)
  · intro hnone i hi
    obtain ⟨line, hline, hmarks⟩ := mem_marked.mp hi
    rw [hnone line (List.mem_of_getElem? hline)] at hmarks
    cases hmarks

theorem markedFrom_append (markers : MarkerSet) (i : Nat) (first second : List Text) :
    markedFrom markers i (first ++ second) =
      markedFrom markers i first ++ markedFrom markers (i + first.length) second := by
  induction first generalizing i with
  | nil => rfl
  | cons line first ih =>
      rw [List.cons_append, markedFrom, markedFrom, ih, List.length_cons, Nat.add_assoc,
        Nat.add_comm 1]
      split <;> rfl

/-- Lines below do not change which of the lines above are marked. -/
theorem between_marked_of_prefix {part doc : Document} (hpart : part.lines <+: doc.lines)
    (markers : MarkerSet) (first : Nat) {last : Nat} (hlast : last < part.length) :
    (doc.marked markers).between first last = (part.marked markers).between first last := by
  obtain ⟨rest, hrest⟩ := hpart
  have hbelow : (markedFrom markers (0 + part.lines.length) rest).filter
      (fun i => first ≤ i && i ≤ last) = [] := by
    apply List.filter_eq_nil_iff.mpr
    intro i hi hbetween
    have hle := le_of_mem_markedFrom hi
    simp only [Bool.and_eq_true, decide_eq_true_eq] at hbetween
    simp only [length] at hlast
    omega
  simp only [LineSet.between, marked, ← hrest, markedFrom_append, List.filter_append, hbelow,
    List.append_nil]

theorem line?_of_cut {doc : Document} {before texts after : List Text}
    (hcut : doc.lines = before ++ (texts ++ after)) {k : Nat} (hk : k < texts.length) :
    doc.line? (before.length + k) = texts[k]? := by
  rw [line?, hcut, List.getElem?_append_right (Nat.le_add_right _ _), Nat.add_sub_cancel_left,
    List.getElem?_append_left hk]

theorem line?_behind_cut {doc : Document} {before texts after : List Text}
    (hcut : doc.lines = before ++ (texts ++ after)) (k : Nat) :
    doc.line? (before.length + texts.length + k) = after[k]? := by
  rw [line?, hcut, ← List.append_assoc, ← List.length_append,
    List.getElem?_append_right (Nat.le_add_right _ _), Nat.add_sub_cancel_left]

/-- The lines whose indexes pass a test, in the order of the document. -/
def select (doc : Document) (wanted : Nat → Bool) : List (Nat × Text) :=
  (numberedFrom 0 doc.lines).filter fun entry => wanted entry.1

@[simp]
theorem select_none (doc : Document) : doc.select (fun _ => false) = [] := by
  simp [select]

/-- Lines selected by two tests, the first of which accepts only what lies
before anything that the second one accepts. -/
theorem select_or {doc : Document} {first second : Nat → Bool}
    (hbefore : ∀ i j, first i = true → second j = true → i < j) :
    doc.select (fun i => first i || second i) = doc.select first ++ doc.select second :=
  filter_or_of_before hbefore ((numberedFrom_ascending 0 doc.lines).imp Nat.le_of_lt)

/-- A segment cut out of a document selects the lines it was made of. -/
theorem select_contains_ofLines {doc : Document} {before texts after : List Text}
    (hcut : doc.lines = before ++ (texts ++ after)) (hne : texts ≠ []) :
    doc.select (Segment.ofLines before.length texts).contains =
      numberedFrom before.length texts := by
  have hpos : 0 < texts.length := List.length_pos_iff.mpr hne
  have hinside : (numberedFrom before.length texts).filter
      (fun entry => (Segment.ofLines before.length texts).contains entry.1) =
        numberedFrom before.length texts := by
    apply List.filter_eq_self.mpr
    intro entry hentry
    have hindex := index_of_mem_numberedFrom hentry
    simp only [Segment.contains_iff, Segment.ofLines]
    omega
  have houtside : ∀ i lines, i + lines.length ≤ before.length ∨ before.length + texts.length ≤ i →
      (numberedFrom i lines).filter
        (fun entry => (Segment.ofLines before.length texts).contains entry.1) = [] := by
    intro i lines hapart
    apply List.filter_eq_nil_iff.mpr
    intro entry hentry
    have hindex := index_of_mem_numberedFrom hentry
    simp only [Segment.contains_iff, Segment.ofLines]
    omega
  simp only [select, hcut, numberedFrom_append, List.filter_append, Nat.zero_add]
  rw [hinside, houtside 0 before (by omega), houtside _ after (by omega), List.nil_append,
    List.append_nil]

end Document

end InlineEval
