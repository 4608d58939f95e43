import InlineEval.Proofs.Segment.Extent

/-! # Clauses and their statement

A further clause goes on with the compound statement that is open, and a compound
statement is opened by a line that ends with the colon of its header. Where the
suite stands behind that colon, or the header goes on in the next line, nothing
is opened. Then no header at all can join the segment, and a further clause of
the statement is left to the next one.
-/

namespace InlineEval

open Text

/-- Words that open a statement which may have further clauses. -/
def clausedKeywords : List Text := ["if".toList, "for".toList, "while".toList, "try".toList]

theorem clausedKeywords_subset : ∀ word ∈ clausedKeywords, word ∈ compoundKeywords := by
  decide

namespace Taken

variable {mode : Mode} {markers : MarkerSet} {texts after : List Text} {header : Text}

/-- A piece that starts with a statement which opens nothing has no header at the
start of a later statement. -/
theorem not_opensCompound (htaken : Taken mode markers texts after)
    (hheader : texts.head? = some header) (hplain : opensCompound (trim header) = false)
    (hstatement : isDecoration header = false) {before behind : List Text} {line : Text}
    (htexts : texts = before ++ line :: behind) (hbefore : before ≠ [])
    (hfinished : (Scanner.fresh.feedAll before).continues = false) :
    opensCompound (trim line) = false := by
  cases htaken with
  | alone =>
      obtain ⟨first, inner, rfl⟩ := List.exists_cons_of_ne_nil hbefore
      simp at htexts
  | @grown draft _ hgrown =>
      have hseen : draft.seen = before ++ line :: (behind ++ draft.held) := by
        rw [Draft.seen, htexts, List.append_assoc, List.cons_append]
      obtain ⟨stage, next, hstage, rfl, htakes, -⟩ := hgrown.stage hseen hbefore
      have hfirst : stage.seen.head? = some header := by
        rw [← hheader, htexts, List.head?_append_of_ne_nil _ hbefore]
      have hbase := hstage.base_eq_none hfirst hplain hstatement
      have hnext := (hstage.takes htakes).base_eq_none ((hstage.head?_seen htakes).trans hfirst)
        hplain hstatement
      rw [← hstage.scan_eq] at hfinished
      cases htakes with
      | unfinished hscan =>
          rw [hfinished] at hscan
          cases hscan
      | held _ hskip =>
          rw [Bool.eq_false_iff]
          intro hopens
          rw [isSkippable_eq_false_of_opensCompound hopens] at hskip
          cases hskip
      | inside _ _ hopen => cases hopen.symm.trans hbase
      | decorated => cases hnext
      | indented _ _ _ hline => exact hline

end Taken

namespace Document

variable {t : Text} {mode : Mode} {markers : MarkerSet} {segment : Segment} {i : Nat} {line : Text}

/-- A line behind the first one of a segment, by the lines in front of it. -/
theorem exists_texts_eq (hmem : segment ∈ (ofText t).segments mode markers)
    (hfirst : segment.first < i) (hlast : i ≤ segment.last)
    (hline : (ofText t).line? i = some line) :
    segment.textsBefore i ≠ [] ∧
      ∃ behind, segment.texts = segment.textsBefore i ++ line :: behind := by
  have hinside := (standsIn_of_mem_segments hmem).line?_eq i
    (Segment.contains_iff.mpr ⟨hfirst.le, hlast⟩)
  rw [hline, Segment.line?, if_neg (by omega)] at hinside
  have hlength := (List.getElem?_eq_some_iff.mp hinside).1
  refine ⟨List.ne_nil_of_length_pos ?_, _, eq_take_append_cons hinside⟩
  rw [Segment.textsBefore, List.length_take]
  omega

/-- The first statement behind a segment. What stands between them is skipped. -/
structure NextStatement (doc : Document) (markers : MarkerSet) (segment : Segment) (i : Nat)
    (line : Text) : Prop where
  behind : segment.last < i
  line_eq : doc.line? i = some line
  kept : isSkippable markers line = false
  skipped : ∀ j other, segment.last < j → j < i → doc.line? j = some other →
    isSkippable markers other = true

/-- What is left behind a segment begins with lines to be skipped and the next
statement. -/
theorem NextStatement.exists_skipped {doc : Document} {before texts after : List Text}
    (hnext : doc.NextStatement markers segment i line)
    (hcut : doc.lines = before ++ (texts ++ after))
    (hend : segment.last + 1 = before.length + texts.length) :
    ∃ skipped behind, after = skipped ++ line :: behind ∧
      ∀ other ∈ skipped, isSkippable markers other = true := by
  obtain ⟨hbehind, hline, -, hskipped⟩ := hnext
  obtain ⟨k, rfl⟩ := Nat.exists_eq_add_of_le (Nat.succ_le_of_lt hbehind)
  rw [Nat.succ_eq_add_one, hend, line?_behind_cut hcut] at hline
  refine ⟨after.take k, _, eq_take_append_cons hline, fun other hother => ?_⟩
  obtain ⟨j, hj⟩ := List.mem_iff_getElem?.mp hother
  have hjk : j < k := by
    have hlength := (List.getElem?_eq_some_iff.mp hj).1
    rw [List.length_take] at hlength
    omega
  rw [List.getElem?_take_of_lt hjk, ← line?_behind_cut hcut, ← hend] at hj
  exact hskipped _ other (by omega) (by omega) hj

/-- A statement keeps its further clauses if the code of its first line ends with
the colon of the header. If it does not, the segment holds no further clause, so
that any such clause is left behind. -/
theorem clauses_stay {header : Text} (hmem : segment ∈ (ofText t).segments mode markers)
    (hheader : (ofText t).line? segment.first = some header)
    (hkeyword : firstWord (trim header) ∈ clausedKeywords) :
    (endsWith ':' (cleanLine header) = true →
        ∀ i line, (ofText t).NextStatement markers segment i line →
          indentation line = indentation header → isClause (trim line) = false) ∧
      (endsWith ':' (cleanLine header) = false →
        ∀ i line, segment.first < i → i ≤ segment.last → (ofText t).line? i = some line →
          (Scanner.fresh.feedAll (segment.textsBefore i)).continues = false →
            isClause (trim line) = false) := by
  have hcompound := clausedKeywords_subset _ hkeyword
  rw [← opensCompound_eq_endsWith hcompound]
  obtain ⟨before, after, hcut, hsegment, htaken⟩ := exists_taken hmem
  have hfirst : segment.first = before.length := congrArg Segment.first hsegment
  have hlast : segment.last = before.length + segment.texts.length - 1 :=
    congrArg Segment.last hsegment
  have hpos := List.length_pos_iff.mpr htaken.ne_nil
  have hhead : segment.texts.head? = some header := by
    rw [List.head?_eq_getElem?, ← line?_of_cut hcut hpos, Nat.add_zero, ← hfirst, hheader]
  constructor
  · intro hopens i line hnext hindent
    obtain ⟨skipped, behind, hafter, hskipped⟩ := hnext.exists_skipped hcut (by omega)
    have hends := htaken.not_goesOnWith hhead hopens hafter hskipped hnext.kept
    exact (not_goesOnWith_iff.mp hends).2 hindent
  · intro hplain i line hstart hend hline hfinished
    obtain ⟨hne, behind, htexts⟩ := exists_texts_eq hmem hstart hend hline
    have hnot := htaken.not_opensCompound hhead hplain (isDecoration_eq_false_of_keyword hcompound)
      htexts hne hfinished
    rw [isClause, hnot, Bool.false_and]

/-- A clause behind a comment joins a marked header, and the loop behind it does
not. A header over two lines takes its suite, which is no clause. -/
theorem clauses_stay_over_comment :
    let doc := ofText "if a:  # ?\n b\n# c\nelse:\n d\nwhile e:".toList
    let segment : Segment := ⟨0, 4, "if a:  # ?\n b\n# c\nelse:\n d".toList⟩
    let broken := ofText "if a or (b and\n c):\n d\nelse:".toList
    let part : Segment := ⟨0, 2, "if a or (b and\n c):\n d".toList⟩
    segment ∈ doc.segments .explicit .default ∧
      doc.NextStatement .default segment 5 "while e:".toList ∧
      isClause (trim "while e:".toList) = false ∧
      part ∈ broken.segments .auto .default ∧ broken.line? 2 = some " d".toList ∧
      isClause (trim " d".toList) = false := by
  intro doc segment broken part
  have hmem : segment ∈ doc.segments .explicit .default := by decide
  have hnext : doc.NextStatement .default segment 5 "while e:".toList := by
    refine ⟨by decide, by decide, by decide, fun j other hbehind hbefore _ => ?_⟩
    change 4 < j at hbehind
    omega
  have hpart : part ∈ broken.segments .auto .default := by decide
  obtain ⟨hstays, -⟩ := clauses_stay hmem (show doc.line? 0 = some "if a:  # ?".toList by decide)
    (by decide)
  obtain ⟨-, hleft⟩ := clauses_stay hpart
    (show broken.line? 0 = some "if a or (b and".toList by decide) (by decide)
  exact ⟨hmem, hnext, hstays (by decide) 5 _ hnext (by decide), hpart, by decide,
    hleft (by decide) 2 _ (by decide) (by decide) (by decide) (by decide)⟩

/-- A clause is split from its statement if the suite in front of it stands on the
line of the header. -/
theorem clause_left_by_suite_on_header :
    ¬ ∀ (t : Text) (mode : Mode) (markers : MarkerSet),
      ∀ segment ∈ (ofText t).segments mode markers, ∀ header,
        (ofText t).line? segment.first = some header →
        firstWord (trim header) ∈ clausedKeywords →
          ∀ i line, (ofText t).NextStatement markers segment i line →
            indentation line = indentation header → isClause (trim line) = false := by
  intro hclaim
  have hnext : (ofText "if x: y = 1\nelse:\n    y = 2".toList).NextStatement .default
      ⟨0, 0, "if x: y = 1".toList⟩ 1 "else:".toList := by
    refine ⟨by decide, by decide, by decide, fun j other hbehind hbefore _ => ?_⟩
    change 0 < j at hbehind
    omega
  have hclause := hclaim "if x: y = 1\nelse:\n    y = 2".toList .auto .default
    ⟨0, 0, "if x: y = 1".toList⟩ (by decide) "if x: y = 1".toList (by decide) (by decide) 1
    "else:".toList hnext (by decide)
  revert hclause
  decide

end Document

end InlineEval
