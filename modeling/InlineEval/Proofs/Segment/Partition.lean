import InlineEval.Proofs.Segment.Layout

/-! # Segments partition a document

The segments of a document follow one another without overlap, each of them is
made of the lines in its range and of nothing else, and what lies between them
is blank or a comment.
-/

namespace InlineEval

open Text

/-- A segment that is made of lines of the document. It does not start with a
line to be skipped, and if it ends with one, then the statement before that
line was unfinished. -/
structure Segment.StandsIn (markers : MarkerSet) (doc : Document) (segment : Segment) : Prop where
  first_le_last : segment.first ≤ segment.last
  last_lt : segment.last < doc.length
  code_eq : segment.code = joinLines ((doc.select segment.contains).map Prod.snd)
  lines_eq : segment.lines = doc.select segment.contains
  line?_eq : ∀ i, segment.contains i = true → segment.line? i = doc.line? i
  not_blank : segment.isBlank = false
  first_kept : ∀ line, doc.line? segment.first = some line → isSkippable markers line = false
  last_taken : ∀ line, doc.line? segment.last = some line → isSkippable markers line = true →
    (Scanner.fresh.feedAll segment.texts.dropLast).continues = true

theorem Segment.StandsIn.split_code {markers : MarkerSet} {doc : Document} {segment : Segment}
    (hstands : segment.StandsIn markers doc) :
    split '\n' segment.code = (doc.select segment.contains).map Prod.snd := by
  rw [← hstands.lines_eq, Segment.lines_eq, map_snd_numberedFrom]
  rfl

/-- A piece cut out of a document is a segment of it. -/
theorem Taken.standsIn {mode : Mode} {markers : MarkerSet} {doc : Document}
    {before texts after : List Text} (htaken : Taken mode markers texts after)
    (hcut : doc.lines = before ++ (texts ++ after)) (hfree : ∀ line ∈ doc.lines, '\n' ∉ line) :
    (Segment.ofLines before.length texts).StandsIn markers doc := by
  have hne := htaken.ne_nil
  have hpos := List.length_pos_iff.mpr hne
  have htexts : (Segment.ofLines before.length texts).texts = texts := by
    refine Segment.texts_ofLines hne fun line hline => hfree line ?_
    rw [hcut]
    exact List.mem_append_right _ (List.mem_append_left _ hline)
  have hselect := Document.select_contains_ofLines hcut hne
  have hline : ∀ k < texts.length, doc.line? (before.length + k) = texts[k]? :=
    fun k hk => Document.line?_of_cut hcut hk
  exact
    { first_le_last := by
        simp only [Segment.ofLines]
        omega
      last_lt := by
        simp only [Segment.ofLines, Document.length, hcut, List.length_append]
        omega
      code_eq := by
        rw [hselect, map_snd_numberedFrom]
        rfl
      lines_eq := by
        rw [hselect, Segment.lines_eq, htexts]
        rfl
      line?_eq := by
        intro i hi
        have hrange := Segment.contains_iff.mp hi
        simp only [Segment.ofLines] at hrange
        obtain ⟨k, rfl⟩ := Nat.exists_eq_add_of_le hrange.1
        rw [hline k (by omega), Segment.line?, if_neg, htexts]
        · simp [Segment.ofLines]
        · simp only [Segment.ofLines]
          omega
      not_blank := by
        obtain ⟨first, rest, rfl⟩ := List.exists_cons_of_ne_nil hne
        have hkeep := htaken.head_kept first rfl
        exact isBlank_joinLines_eq_false rest (isBlank_eq_false_of_isSkippable hkeep)
      first_kept := by
        intro line hfirst
        refine htaken.head_kept line ?_
        rw [List.head?_eq_getElem?, ← hline 0 hpos]
        exact hfirst
      last_taken := by
        intro line hlast hskip
        have hend : before.length + texts.length - 1 = before.length + (texts.length - 1) := by
          omega
        simp only [Segment.ofLines, hend] at hlast
        rw [htexts]
        refine htaken.last_taken line ?_ hskip
        rw [List.getLast?_eq_getElem?, ← hline _ (by omega)]
        exact hlast }

/-- The lines of a segment in front of a line of the document. -/
def Segment.textsBefore (segment : Segment) (i : Nat) : List Text :=
  segment.texts.take (i - segment.first)

namespace Document

theorem segments_layout (doc : Document) (mode : Mode) (markers : MarkerSet) :
    Layout mode markers 0 doc.lines (doc.segments mode markers) :=
  Layout.divide_layout mode markers doc.lines

theorem segments_ascending (doc : Document) (mode : Mode) (markers : MarkerSet) :
    (doc.segments mode markers).Pairwise fun earlier later => earlier.last < later.first :=
  (doc.segments_layout mode markers).ascending

theorem standsIn_of_mem_segments {t : Text} {mode : Mode} {markers : MarkerSet}
    {segment : Segment} (hmem : segment ∈ (ofText t).segments mode markers) :
    segment.StandsIn markers (ofText t) := by
  obtain ⟨before, texts, after, hcut, rfl, htaken⟩ :=
    ((ofText t).segments_layout mode markers).exists_cut hmem
  rw [Nat.zero_add]
  exact htaken.standsIn hcut fun line => newline_not_mem_ofText

/-- A segment and the place where it is cut out of the text. -/
theorem exists_taken {t : Text} {mode : Mode} {markers : MarkerSet} {segment : Segment}
    (hmem : segment ∈ (ofText t).segments mode markers) :
    ∃ before after, (ofText t).lines = before ++ (segment.texts ++ after) ∧
      segment = Segment.ofLines before.length segment.texts ∧
      Taken mode markers segment.texts after := by
  obtain ⟨before, texts, after, hcut, rfl, htaken⟩ :=
    ((ofText t).segments_layout mode markers).exists_cut hmem
  have htexts : (Segment.ofLines (0 + before.length) texts).texts = texts := by
    refine Segment.texts_ofLines htaken.ne_nil fun line hline =>
      newline_not_mem_ofText (t := t) ?_
    rw [hcut]
    exact List.mem_append_right _ (List.mem_append_left _ hline)
  refine ⟨before, after, ?_, ?_, ?_⟩
  · rw [htexts, hcut]
  · rw [htexts, Nat.zero_add]
  · rwa [htexts]

/-- A line that is not to be skipped stands in a segment. -/
theorem exists_segment_of_line? {doc : Document} {mode : Mode} {markers : MarkerSet} {i : Nat}
    {line : Text} (hline : doc.line? i = some line) (hkeep : isSkippable markers line = false) :
    ∃ segment ∈ doc.segments mode markers, segment.contains i = true := by
  by_contra hnone
  have hskip := (doc.segments_layout mode markers).skippable_of_uncovered
    (mem_numberedFrom.mpr ⟨Nat.zero_le i, hline⟩)
    fun segment hmem => Bool.eq_false_iff.mpr fun hcontains => hnone ⟨segment, hmem, hcontains⟩
  rw [hkeep] at hskip
  cases hskip

/-- A segment that holds a line of the text begins with some of the lines before
that line. -/
theorem exists_taken_of_contains {t : Text} {mode : Mode} {markers : MarkerSet}
    {segment : Segment} {before after : List Text}
    (hmem : segment ∈ (ofText t).segments mode markers)
    (hlines : (ofText t).lines = before ++ after)
    (hcontains : segment.contains before.length = true) :
    ∃ skipped inner rest, before = skipped ++ inner ∧
      segment = Segment.ofLines skipped.length segment.texts ∧
      Taken mode markers segment.texts rest ∧ segment.texts ++ rest = inner ++ after ∧
      inner.length < segment.texts.length ∧ segment.textsBefore before.length = inner := by
  obtain ⟨skipped, rest, hcut, hsegment, htaken⟩ := exists_taken hmem
  have hfirst : segment.first = skipped.length := congrArg Segment.first hsegment
  have hlast : segment.last = skipped.length + segment.texts.length - 1 :=
    congrArg Segment.last hsegment
  have hpos := List.length_pos_iff.mpr htaken.ne_nil
  have hrange := Segment.contains_iff.mp hcontains
  obtain ⟨inner, rfl⟩ : skipped <+: before :=
    List.prefix_of_prefix_length_le (hcut ▸ List.prefix_append _ _)
      (hlines ▸ List.prefix_append _ _) (by omega)
  rw [List.length_append] at hrange
  have hinner : inner.length < segment.texts.length := by omega
  rw [hcut, List.append_assoc] at hlines
  have hfrom := List.append_cancel_left hlines
  obtain ⟨own, hown⟩ : inner <+: segment.texts :=
    List.prefix_of_prefix_length_le (hfrom ▸ List.prefix_append _ _)
      (List.prefix_append segment.texts rest) hinner.le
  refine ⟨skipped, inner, rest, rfl, hsegment, htaken, hfrom, hinner, ?_⟩
  simp [Segment.textsBefore, hfirst, ← hown]

theorem segments_last_ascending (t : Text) (mode : Mode) (markers : MarkerSet) :
    (((ofText t).segments mode markers).map Segment.last).Pairwise (· < ·) := by
  rw [List.pairwise_map]
  refine ((ofText t).segments_ascending mode markers).imp_of_mem ?_
  intro earlier later _ hlater hbefore
  have hrange := (standsIn_of_mem_segments hlater).first_le_last
  omega

/-- The segments of a text are disjoint, ascend, stand in its document line by
line, and leave out nothing but blank lines and comments. -/
theorem segments_partition (t : Text) (mode : Mode) (markers : MarkerSet) :
    let doc := ofText t
    let segments := doc.segments mode markers
    (segments.Pairwise fun earlier later => earlier.last < later.first) ∧
      (∀ segment ∈ segments, segment.StandsIn markers doc) ∧
      ∀ i line, doc.line? i = some line →
        (∀ segment ∈ segments, segment.contains i = false) → isSkippable markers line = true := by
  refine ⟨segments_ascending _ mode markers, fun segment => standsIn_of_mem_segments, ?_⟩
  intro i line hline huncovered
  refine (segments_layout _ mode markers).skippable_of_uncovered ?_ huncovered
  exact mem_numberedFrom.mpr ⟨Nat.zero_le i, hline⟩

/-- An open bracket takes the comment inside it, and the one behind it is left
out. -/
theorem segments_partition_open_bracket :
    let doc := ofText "x = [1,\n# two\n]\n# end".toList
    doc.segments .auto .default = [⟨0, 2, "x = [1,\n# two\n]".toList⟩] ∧
      (∀ segment ∈ doc.segments .auto .default, segment.StandsIn .default doc) ∧
      isSkippable .default "# end".toList = true := by
  have hpartition := segments_partition "x = [1,\n# two\n]\n# end".toList .auto .default
  refine ⟨by decide, hpartition.2.1, ?_⟩
  exact hpartition.2.2 3 "# end".toList (by decide) (by decide)

end Document

end InlineEval
