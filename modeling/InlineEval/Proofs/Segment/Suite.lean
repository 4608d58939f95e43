import InlineEval.Proofs.Segment.Stages
import InlineEval.Proofs.Segment.Unfinished

/-! # The suite of a header

Behind the header of a compound statement stands its suite, the statements that
are indented deeper. A header is recognised by its first line. One that goes on
over several lines may have a first line that does not end with a colon; then
its segment is a plain statement to the division, which keeps indented lines
but neither a nested header nor a marked line that stands alone.
-/

namespace InlineEval

open Text

/-- The statements at the beginning of a list of lines whose first lines are
wanted. Blank lines, comments and the further lines of a statement go along. -/
def statementsWhile (markers : MarkerSet) (wanted : Text → Bool) (scan : Scanner) :
    List Text → List Text
  | [] => []
  | line :: rest =>
      if scan.continues || isSkippable markers line || wanted line then
        line :: statementsWhile markers wanted (scan.feed line) rest
      else []

/-- The lines behind a header up to the first statement that is not indented
deeper. -/
def suite (markers : MarkerSet) (header : Text) (rest : List Text) : List Text :=
  statementsWhile markers (fun line => indentation header < indentation line) .fresh rest

/-- The part of the suite that stays with a header, whatever stands in it. It
is all of the suite if the first line is recognised as a header, and otherwise
what comes before the first nested header and the first line that stands
alone. -/
def keptSuite (mode : Mode) (markers : MarkerSet) (header : Text) (rest : List Text) :
    List Text :=
  if opensCompound (trim header) then suite markers header rest
  else
    statementsWhile markers
      (fun line => indentation header < indentation line && !opensCompound (trim line) &&
        !decide (StandsAlone mode markers line)) .fresh rest

/-- A header of a compound statement that goes on over at least two lines. -/
structure IsLongHeader (first : Text) (further : List Text) : Prop where
  further_ne_nil : further ≠ []
  /-- The scanner keeps it open before each further line. -/
  unfinished : ∀ before, before <+: further → before ≠ further →
    (Scanner.fresh.feedAll (first :: before)).continues = true
  finished : (Scanner.fresh.feedAll (first :: further)).continues = false
  keyword : firstWord (trim first) ∈ compoundKeywords
  opening : firstWord (trim first) ∉ clauseKeywords
  colon : ∀ last ∈ further.getLast?, endsWith ':' (cleanLine last) = true

/-- What a line is that stands behind some of the statements. -/
theorem wanted_of_prefix_statementsWhile {markers : MarkerSet} {wanted : Text → Bool}
    {scan : Scanner} {before lines : List Text} {line : Text}
    (hbegins : before ++ [line] <+: statementsWhile markers wanted scan lines)
    (hfinished : (scan.feedAll before).continues = false)
    (hkeep : isSkippable markers line = false) : wanted line = true := by
  induction lines generalizing scan before with
  | nil => simp [statementsWhile] at hbegins
  | cons head rest ih =>
      simp only [statementsWhile] at hbegins
      split at hbegins
      next hhead =>
        cases before with
        | nil =>
            rw [List.nil_append, List.cons_prefix_cons] at hbegins
            obtain ⟨rfl, _⟩ := hbegins
            change scan.continues = false at hfinished
            simpa [hfinished, hkeep] using hhead
        | cons earlier before =>
            rw [List.cons_append, List.cons_prefix_cons] at hbegins
            obtain ⟨rfl, hbegins⟩ := hbegins
            exact ih hbegins hfinished
      next => simp at hbegins

theorem statementsWhile_prefix {markers : MarkerSet} {wanted : Text → Bool} {scan : Scanner}
    {lines : List Text} : statementsWhile markers wanted scan lines <+: lines := by
  induction lines generalizing scan with
  | nil => exact List.prefix_rfl
  | cons head rest ih =>
      simp only [statementsWhile]
      split
      · exact List.cons_prefix_cons.mpr ⟨rfl, ih⟩
      · exact List.nil_prefix

theorem keptSuite_eq (mode : Mode) (markers : MarkerSet) (header : Text) (rest : List Text) :
    keptSuite mode markers header rest =
      statementsWhile markers (fun line => indentation header < indentation line &&
        (opensCompound (trim header) ||
          !opensCompound (trim line) && !decide (StandsAlone mode markers line))) .fresh rest := by
  unfold keptSuite suite
  split
  next hopens => simp [hopens]
  next hplain => simp [hplain, Bool.and_assoc]

namespace IsLongHeader

variable {first : Text} {further : List Text}

/-- A header of two lines is unfinished before the second one only. -/
theorem of_two {second : Text} (hunfinished : (Scanner.fresh.feed first).continues = true)
    (hfinished : (Scanner.fresh.feedAll [first, second]).continues = false)
    (hkeyword : firstWord (trim first) ∈ compoundKeywords)
    (hopening : firstWord (trim first) ∉ clauseKeywords)
    (hcolon : endsWith ':' (cleanLine second) = true) : IsLongHeader first [second] where
  further_ne_nil := List.cons_ne_nil second []
  unfinished before hbegins hne := by
    rcases List.prefix_cons_iff.mp hbegins with rfl | ⟨tail, rfl, htail⟩
    · exact hunfinished
    · rw [List.prefix_nil.mp htail] at hne
      exact absurd rfl hne
  finished := hfinished
  keyword := hkeyword
  opening := hopening
  colon last hlast := by
    cases hlast
    exact hcolon

theorem isDecoration_eq_false (hheader : IsLongHeader first further) :
    isDecoration first = false :=
  isDecoration_eq_false_of_keyword hheader.keyword

/-- Lines that the header and its suite begin with, if they leave nothing
unfinished, contain the whole header. -/
theorem exists_suite_part (hheader : IsLongHeader first further) {seen more : List Text}
    {line : Text} (hbegins : seen ++ [line] <+: first :: (further ++ more)) (hseen : seen ≠ [])
    (hfinished : (Scanner.fresh.feedAll seen).continues = false) :
    ∃ part, seen = first :: (further ++ part) ∧ part ++ [line] <+: more ∧
      (Scanner.fresh.feedAll part).continues = false := by
  obtain ⟨head, behind, rfl⟩ := List.exists_cons_of_ne_nil hseen
  rw [List.cons_append, List.cons_prefix_cons] at hbegins
  obtain ⟨rfl, hbegins⟩ := hbegins
  rcases List.prefix_or_prefix_of_prefix ((List.prefix_append behind [line]).trans hbegins)
    (List.prefix_append further more) with hinside | ⟨part, rfl⟩
  · by_cases hwhole : behind = further
    · subst hwhole
      refine ⟨[], ?_, ?_, rfl⟩
      · rw [List.append_nil]
      · rwa [List.prefix_append_right_inj] at hbegins
    · rw [hheader.unfinished behind hinside hwhole] at hfinished
      cases hfinished
  · rw [List.append_assoc, List.prefix_append_right_inj] at hbegins
    refine ⟨part, rfl, hbegins, ?_⟩
    rwa [← List.cons_append, Scanner.feedAll_append,
      Scanner.continues_eq_false_iff.mp hheader.finished] at hfinished

end IsLongHeader

theorem Draft.Grown.accepts_keptSuite {mode : Mode} {markers : MarkerSet} {draft : Draft}
    (hgrown : draft.Grown mode markers) {first : Text} {further rest : List Text}
    (hheader : IsLongHeader first further) {line : Text}
    (hbegins : draft.seen ++ [line] <+:
      first :: (further ++ keptSuite mode markers first rest)) :
    draft.accept mode markers line ≠ none := by
  refine accept_ne_none fun hscan hkeep => ?_
  have hfinished := hscan
  rw [hgrown.scan_eq] at hfinished
  obtain ⟨part, hseen, hpart, hfinished⟩ :=
    hheader.exists_suite_part hbegins hgrown.seen_ne_nil hfinished
  have hfirst : draft.seen.head? = some first := by rw [hseen]; rfl
  rw [keptSuite_eq] at hpart
  have hwanted := wanted_of_prefix_statementsWhile hpart hfinished hkeep
  rw [Bool.and_eq_true, decide_eq_true_eq] at hwanted
  obtain ⟨hindent, hplace⟩ := hwanted
  cases hopens : opensCompound (trim first) with
  | true =>
      -- A compound statement is open, so that the line is indented is enough.
      have hbase := hgrown.base_of_header hfirst hopens
      simp [accept_eq_some_iff.mpr (.inside hscan hkeep hbase (.inl hindent))]
  | false =>
      -- The header counts as a plain statement, which keeps fewer indented lines.
      have hbase := hgrown.base_eq_none hfirst hopens hheader.isDecoration_eq_false
      simp only [hopens, Bool.false_or, Bool.and_eq_true, Bool.not_eq_true',
        decide_eq_false_iff_not] at hplace
      obtain ⟨hplain, hgrows⟩ := hplace
      have halone : ¬ (mode = .explicit ∧ markers.marks line = true) :=
        fun halone => hgrows ⟨halone.1, halone.2, hplain⟩
      simp [accept_eq_some_iff.mpr (.indented hscan hkeep hbase hplain halone (by omega))]

namespace Document

/-- A header over several lines keeps its suite up to the first nested header
or line that stands alone, and all of its suite if the first line is
recognised as a header. Blank lines and comments at the end stay outside. -/
theorem header_keeps_suite {t : Text} {mode : Mode} {markers : MarkerSet} {segment : Segment}
    {first : Text} {further rest : List Text}
    (hmem : segment ∈ (ofText t).segments mode markers)
    (hlines : (ofText t).lines.drop segment.first = first :: (further ++ rest))
    (hheader : IsLongHeader first further) (hgrows : ¬ StandsAlone mode markers first) :
    (first :: (further ++ keptSuite mode markers first rest)).rdropWhile (isSkippable markers)
      <+: segment.texts := by
  obtain ⟨before, after, hcut, hsegment, htaken⟩ := exists_taken hmem
  have hfrom : segment.texts ++ after = first :: (further ++ rest) := by
    rw [← hlines, hcut, hsegment]
    exact List.drop_left.symm
  generalize segment.texts = texts at htaken hfrom ⊢
  cases htaken with
  | @alone line _ _ hplain halone =>
      -- The header itself would be the marked line.
      cases hfrom
      exact absurd ⟨halone.1, halone.2, hplain⟩ hgrows
  | @grown draft rest' hgrown hrefused =>
      rw [← List.append_assoc] at hfrom
      refine hgrown.prefix_lines (Draft.prefix_seen hrefused ?_ fun line hline =>
        hgrown.accepts_keptSuite hheader hline)
      have hkept : keptSuite mode markers first rest <+: rest := by
        rw [keptSuite_eq]
        exact statementsWhile_prefix
      rw [Draft.seen, hfrom]
      exact List.cons_prefix_cons.mpr ⟨rfl, (List.prefix_append_right_inj further).mpr hkept⟩

/-- The suite is kept over a blank line, and the blank line behind it is not. -/
theorem header_keeps_suite_over_blank_line :
    let doc := ofText "def f(a,\n      b):\n    c = a\n\n    return c\n\nf".toList
    let segment : Segment := ⟨0, 4, "def f(a,\n      b):\n    c = a\n\n    return c".toList⟩
    segment ∈ doc.segments .auto .default ∧
      ["def f(a,".toList, "      b):".toList, "    c = a".toList, [], "    return c".toList] <+:
        segment.texts := by
  have hheader : IsLongHeader "def f(a,".toList ["      b):".toList] :=
    .of_two (by decide) (by decide) (by decide) (by decide) (by decide)
  have hmem : ⟨0, 4, "def f(a,\n      b):\n    c = a\n\n    return c".toList⟩ ∈
      (ofText "def f(a,\n      b):\n    c = a\n\n    return c\n\nf".toList).segments .auto
        .default := by decide
  have hlines : (ofText "def f(a,\n      b):\n    c = a\n\n    return c\n\nf".toList).lines.drop 0 =
      "def f(a,".toList :: (["      b):".toList] ++
        ["    c = a".toList, [], "    return c".toList, [], "f".toList]) := by decide
  exact ⟨hmem, header_keeps_suite hmem hlines hheader (by decide)⟩

/-- A header whose first line ends in an open bracket loses the suite from a
nested header on. -/
theorem nested_header_leaves_long_header :
    ¬ ∀ (t : Text) (mode : Mode) (markers : MarkerSet),
      ∀ segment ∈ (ofText t).segments mode markers, ∀ first further rest,
        (ofText t).lines.drop segment.first = first :: (further ++ rest) →
          IsLongHeader first further →
            (first :: (further ++ suite markers first rest)).rdropWhile (isSkippable markers)
              <+: segment.texts := by
  intro hclaim
  have hheader : IsLongHeader "def f(".toList ["        a):".toList] :=
    .of_two (by decide) (by decide) (by decide) (by decide) (by decide)
  have hkept := hclaim
    "def f(\n        a):\n    if a:\n        return 1\n    return 2".toList .auto .default
    ⟨0, 1, "def f(\n        a):".toList⟩ (by decide) "def f(".toList ["        a):".toList]
    ["    if a:".toList, "        return 1".toList, "    return 2".toList] (by decide) hheader
  revert hkept
  decide

end Document

end InlineEval
