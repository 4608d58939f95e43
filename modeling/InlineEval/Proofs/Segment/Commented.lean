import InlineEval.Proofs.Segment.Partition
import InlineEval.Proofs.Segment.Restart
import InlineEval.Proofs.Source.Comment

/-! # Comments do not move segments

In auto mode marks divide nothing, so a comment that is added behind a line may
carry any mark and still moves no segment. Two drafts that have seen the same
lines, up to such a comment, take and refuse the same lines from there on.
-/

namespace InlineEval

open Text

variable {markers : MarkerSet} {line other : Text}

/-- Two lines that look alike to a draft, whatever it holds, but for what they
leave unfinished. -/
structure SameShape (markers : MarkerSet) (line other : Text) : Prop where
  skippable : isSkippable markers other = isSkippable markers line
  /-- A line to be skipped is kept as it is. -/
  eq_of_skippable : isSkippable markers line = true → other = line
  decoration : isDecoration other = isDecoration line
  indentation : indentation other = indentation line
  opens : opensCompound (trim other) = opensCompound (trim line)
  clause : isClause (trim other) = isClause (trim line)

namespace SameShape

theorem refl (line : Text) : SameShape markers line line := ⟨rfl, fun _ => rfl, rfl, rfl, rfl, rfl⟩

theorem symm (hshape : SameShape markers line other) : SameShape markers other line where
  skippable := hshape.skippable.symm
  eq_of_skippable hskip := (hshape.eq_of_skippable (hshape.skippable ▸ hskip)).symm
  decoration := hshape.decoration.symm
  indentation := hshape.indentation.symm
  opens := hshape.opens.symm
  clause := hshape.clause.symm

end SameShape

namespace Draft

/-- Two drafts that look alike to every line that may come. -/
structure Alike (draft twin : Draft) : Prop where
  held : twin.held = draft.held
  base : twin.base = draft.base
  scan : twin.scan = draft.scan
  decorations : twin.lines.map isDecoration = draft.lines.map isDecoration

variable {draft twin next : Draft}

namespace Alike

theorem refl (draft : Draft) : draft.Alike draft := ⟨rfl, rfl, rfl, rfl⟩

theorem symm (halike : draft.Alike twin) : twin.Alike draft :=
  ⟨halike.held.symm, halike.base.symm, halike.scan.symm, halike.decorations.symm⟩

theorem onlyDecorators_eq (halike : draft.Alike twin) :
    twin.onlyDecorators = draft.onlyDecorators := by
  have hall : ∀ lines : List Text, lines.all isDecoration = (lines.map isDecoration).all id := by
    intro lines
    rw [List.all_map]
    rfl
  rw [Draft.onlyDecorators_eq, Draft.onlyDecorators_eq, hall, hall, halike.decorations]

theorem begin (i : Nat) (base : Option Nat) (hshape : SameShape markers line other)
    (hfeed : Scanner.fresh.feed other = Scanner.fresh.feed line) :
    (Draft.begin i base line).Alike (Draft.begin i base other) where
  held := rfl
  base := rfl
  scan := hfeed
  decorations := congrArg (fun decoration => [decoration]) hshape.decoration

theorem push (halike : draft.Alike twin) (hshape : SameShape markers line other)
    (hfeed : draft.scan.feed other = draft.scan.feed line) :
    (draft.push line).Alike (twin.push other) where
  held := rfl
  base := halike.base
  scan := by
    change twin.scan.feed other = draft.scan.feed line
    rw [halike.scan, hfeed]
  decorations := by
    simp [halike.decorations, halike.held, hshape.decoration]

/-- What one of them takes the other one takes as well, and they still look
alike if the line leaves the same unfinished for both. -/
theorem exists_takes (halike : draft.Alike twin) (hshape : SameShape markers line other)
    (htakes : draft.Takes .auto markers line next) :
    ∃ next', twin.Takes .auto markers other next' ∧
      (draft.scan.feed other = draft.scan.feed line → next.Alike next') := by
  have hpush := halike.push hshape
  cases htakes with
  | unfinished hscan =>
      exact ⟨_, .unfinished (halike.scan ▸ hscan), hpush⟩
  | held hscan hskip =>
      refine ⟨_, .held (halike.scan ▸ hscan) (hshape.skippable.trans hskip), fun _ => ?_⟩
      rw [hshape.eq_of_skippable hskip]
      exact ⟨by simp [halike.held], halike.base, halike.scan, halike.decorations⟩
  | inside hscan hkeep hbase hindent =>
      rw [← hshape.indentation, ← hshape.clause] at hindent
      exact ⟨_, .inside (halike.scan ▸ hscan) (hshape.skippable.trans hkeep)
        (halike.base.trans hbase) hindent, hpush⟩
  | decorated hscan hkeep hbase hopens hdecorators =>
      refine ⟨_, .decorated (halike.scan ▸ hscan) (hshape.skippable.trans hkeep)
        (halike.base.trans hbase) (hshape.opens.trans hopens)
        (halike.onlyDecorators_eq.trans hdecorators), fun hfeed => ?_⟩
      obtain ⟨hheld, -, hscan, hdecorations⟩ := hpush hfeed
      exact ⟨hheld, congrArg some hshape.indentation, hscan, hdecorations⟩
  | indented hscan hkeep hbase hplain halone hindent =>
      exact ⟨_, .indented (halike.scan ▸ hscan) (hshape.skippable.trans hkeep)
        (halike.base.trans hbase) (hshape.opens.trans hplain) (by simp)
        (hshape.indentation ▸ hindent), hpush⟩

theorem refused (halike : draft.Alike twin) (hshape : SameShape markers line other)
    (hrefused : draft.accept .auto markers line = none) :
    twin.accept .auto markers other = none := by
  rw [Option.eq_none_iff_forall_ne_some] at hrefused ⊢
  intro next hnext
  obtain ⟨next', htakes, -⟩ := halike.symm.exists_takes hshape.symm (accept_eq_some_iff.mp hnext)
  exact hrefused next' (accept_eq_some_iff.mpr htakes)

end Alike

/-- Every draft that has seen the line has a twin that has seen the other line
in its place. -/
theorem Grown.exists_twin {before after : List Text} (hgrown : draft.Grown .auto markers)
    (hshape : SameShape markers line other)
    (hfeed : (Scanner.fresh.feedAll before).feed other = (Scanner.fresh.feedAll before).feed line)
    (hseen : draft.seen = before ++ line :: after) :
    ∃ twin : Draft, twin.Grown .auto markers ∧ twin.seen = before ++ other :: after ∧
      draft.Alike twin := by
  -- From the end of the draft backwards; until the line itself the drafts are
  -- one and the same.
  induction hgrown generalizing after with
  | @header i first hkeep hopens =>
      obtain ⟨rfl, hfirst⟩ | ⟨_, hnil⟩ := List.append_eq_singleton_iff.mp hseen.symm
      · cases hfirst
        have halike := Alike.begin i (some (indentation line)) hshape hfeed
        rw [← hshape.indentation] at halike ⊢
        exact ⟨_, .header (hshape.skippable.trans hkeep) (hshape.opens.trans hopens), rfl, halike⟩
      · cases hnil
  | @plain i first hkeep hplain halone =>
      obtain ⟨rfl, hfirst⟩ | ⟨_, hnil⟩ := List.append_eq_singleton_iff.mp hseen.symm
      · cases hfirst
        exact ⟨_, .plain (hshape.skippable.trans hkeep) (hshape.opens.trans hplain) (by simp), rfl,
          .begin i none hshape hfeed⟩
      · cases hnil
  | @takes stage next last hgrown htakes ih =>
      rw [htakes.seen_eq] at hseen
      rcases List.eq_nil_or_concat after with rfl | ⟨inner, final, rfl⟩
      · obtain ⟨rfl, hlast⟩ := List.append_inj' hseen rfl
        cases hlast
        obtain ⟨twin, htwin, halike⟩ := (Alike.refl stage).exists_takes hshape htakes
        refine ⟨twin, .takes hgrown htwin, htwin.seen_eq, halike ?_⟩
        rw [hgrown.scan_eq, hfeed]
      · rw [List.concat_eq_append, ← List.cons_append, ← List.append_assoc] at hseen
        obtain ⟨hinner, hlast⟩ := List.append_inj' hseen rfl
        cases hlast
        obtain ⟨twin, hgrown, htwin, halike⟩ := ih hinner
        obtain ⟨next', htakes', halike'⟩ := halike.exists_takes (.refl _) htakes
        refine ⟨next', .takes hgrown htakes', ?_, halike' rfl⟩
        rw [htakes'.seen_eq, htwin, List.append_assoc, List.cons_append, List.concat_eq_append]

end Draft

namespace Taken

variable {texts after : List Text}

/-- What is taken as one segment is taken with the other line in it too. -/
theorem replace_inside {before own : List Text}
    (htaken : Taken .auto markers (before ++ line :: own) after)
    (hshape : SameShape markers line other)
    (hfeed : (Scanner.fresh.feedAll before).feed other = (Scanner.fresh.feedAll before).feed line) :
    Taken .auto markers (before ++ other :: own) after := by
  generalize htexts : before ++ line :: own = texts at htaken
  cases htaken with
  | alone _ _ halone => cases halone.1
  | @grown draft rest hgrown hrefused =>
      have hseen : draft.seen = before ++ line :: (own ++ draft.held) := by
        rw [Draft.seen, ← htexts, List.append_assoc, List.cons_append]
      obtain ⟨twin, htwin, htwinSeen, halike⟩ := hgrown.exists_twin hshape hfeed hseen
      have hlines : twin.lines = before ++ other :: own := by
        rw [Draft.seen, halike.held, ← List.cons_append, ← List.append_assoc] at htwinSeen
        exact List.append_cancel_right htwinSeen
      rw [← hlines, ← halike.held]
      exact .grown htwin fun next hnext => halike.refused (.refl next) (hrefused next hnext)

/-- The line may stand behind what is taken, and in particular end it. -/
theorem replace_behind {before own : List Text}
    (htaken : Taken .auto markers texts (before ++ line :: own))
    (hkeep : isSkippable markers line = false) (hshape : SameShape markers line other) :
    Taken .auto markers texts (before ++ other :: own) := by
  generalize hafter : before ++ line :: own = after at htaken
  cases htaken with
  | alone _ _ halone => cases halone.1
  | @grown draft rest hgrown hrefused =>
      obtain ⟨refused, rfl, rfl⟩ := hgrown.sound.exists_eq_held_append hkeep hafter.symm
      rw [List.append_assoc]
      refine .grown hgrown ?_
      cases refused with
      | nil =>
          rintro _ ⟨⟩
          exact (Draft.Alike.refl draft).refused hshape (hrefused line rfl)
      | cons first refused => exact hrefused

end Taken

/-- The lines of a segment, by the first and the last of them. -/
def Segment.span (segment : Segment) : Nat × Nat := (segment.first, segment.last)

theorem Segment.span_ofLines {texts texts' : List Text} (hlength : texts'.length = texts.length)
    (i : Nat) : (ofLines i texts').span = (ofLines i texts).span := by
  simp [span, ofLines, hlength]

/-- The other line in its place leaves a layout as it is, but for the text of
the segment that holds it. -/
theorem Layout.exists_replaced {i : Nat} {lines before after : List Text}
    {segments : List Segment} (hlayout : Layout .auto markers i lines segments)
    (hlines : lines = before ++ line :: after) (hkeep : isSkippable markers line = false)
    (hshape : SameShape markers line other)
    (hfeed : ∀ skipped inner own, before = skipped ++ inner →
      Segment.ofLines (i + skipped.length) (inner ++ line :: own) ∈ segments →
        (Scanner.fresh.feedAll inner).feed other = (Scanner.fresh.feedAll inner).feed line) :
    ∃ replaced, Layout .auto markers i (before ++ other :: after) replaced ∧
      replaced.map Segment.span = segments.map Segment.span := by
  induction hlayout generalizing before with
  | nil => simp at hlines
  | @skip i first rest segments hskip hrest ih =>
      cases before with
      | nil =>
          cases hlines
          rw [hkeep] at hskip
          cases hskip
      | cons _ before =>
          cases hlines
          obtain ⟨replaced, hreplaced, hspans⟩ := ih rfl fun skipped inner own hbefore hmem =>
            hfeed (first :: skipped) inner own (by rw [hbefore]; rfl)
              (by rwa [List.length_cons, Nat.add_comm skipped.length, ← Nat.add_assoc])
          exact ⟨replaced, .skip hskip hreplaced, hspans⟩
  | @segment i texts rest segments htaken hrest ih =>
      rcases cases_of_append_eq hlines with ⟨own, rfl, rfl⟩ | ⟨between, rfl, rfl⟩
      · -- The line stands in the segment.
        have htwin := htaken.replace_inside hshape
          (hfeed [] before own rfl List.mem_cons_self)
        have hlength : (before ++ other :: own).length = (before ++ line :: own).length := by simp
        rw [← hlength] at hrest
        refine ⟨Segment.ofLines i (before ++ other :: own) :: segments, ?_, ?_⟩
        · rw [← List.cons_append, ← List.append_assoc]
          exact .segment htwin hrest
        · rw [List.map_cons, List.map_cons, Segment.span_ofLines hlength]
      · obtain ⟨replaced, hreplaced, hspans⟩ := ih rfl fun skipped inner own hbefore hmem =>
          hfeed (texts ++ skipped) inner own (by rw [hbefore, List.append_assoc])
            (List.mem_cons_of_mem _ (by rwa [List.length_append, ← Nat.add_assoc]))
        refine ⟨Segment.ofLines i texts :: replaced, ?_, ?_⟩
        · rw [List.append_assoc]
          exact .segment (htaken.replace_behind hkeep hshape) hreplaced
        · rw [List.map_cons, List.map_cons, hspans]

theorem isSkippable_of_code (hkeep : isBlank line = false)
    (hcode : (trim line).head? ≠ some '#') : isSkippable markers line = false := by
  simp [isSkippable, hkeep, hcode]

/-- A comment behind a line of code makes no difference to its shape. -/
theorem SameShape.withComment (hkeep : isBlank line = false)
    (hcode : (trim line).head? ≠ some '#')
    (hquotes : Surroundings.code.atEnd line = .code ∨ Surroundings.code.atEnd line = .comment)
    (note : Text) : SameShape markers line (withComment line note) := by
  have hskip : isSkippable markers line = false := isSkippable_of_code hkeep hcode
  have hstart := head?_trimStart_withComment hkeep note
  rw [← head?_trim, ← head?_trim] at hstart
  exact
    { skippable := by
        rw [hskip, isSkippable_of_code (isBlank_withComment hkeep note) (hstart ▸ hcode)]
      eq_of_skippable := by simp [hskip]
      decoration := isDecoration_withComment hkeep note
      indentation := indentation_withComment hkeep note
      opens := opensCompound_withComment hkeep hquotes note
      clause := isClause_withComment hkeep hquotes note }

theorem LineKind.ofLine_withComment (hkeep : isBlank line = false)
    (hquotes : Surroundings.code.atEnd line = .code ∨ Surroundings.code.atEnd line = .comment)
    (note : Text) : ofLine (InlineEval.withComment line note) = ofLine line := by
  simp only [ofLine, cleanLine_withComment hkeep hquotes]

namespace Document

/-- A comment behind a line of code, a mark or any other, changes neither the
code of the line nor what it asks to be shown, and all segments begin and end
where they did. The line must leave no string open and not end in a backslash,
as told by the line alone and by the lines of its segment. -/
theorem comment_moves_nothing {t : Text} {markers : MarkerSet} {before after : List Text}
    {line : Text} (note : Text) {commented : Document}
    (hlines : (ofText t).lines = before ++ line :: after)
    (hcommented : commented.lines = before ++ withComment line note :: after)
    (hkeep : isBlank line = false) (hcode : (trim line).head? ≠ some '#')
    (hquotes : Surroundings.code.atEnd line = .code ∨ Surroundings.code.atEnd line = .comment)
    (hcloses : ∀ segment ∈ (ofText t).segments .auto markers,
      segment.contains before.length = true →
        (Scanner.fresh.feedAll (segment.textsBefore before.length)).Closes line) :
    cleanLine (withComment line note) = cleanLine line ∧
      LineKind.ofLine (withComment line note) = LineKind.ofLine line ∧
      (commented.segments .auto markers).map Segment.span =
        ((ofText t).segments .auto markers).map Segment.span := by
  refine ⟨cleanLine_withComment hkeep hquotes note, LineKind.ofLine_withComment hkeep hquotes note,
    ?_⟩
  have hfeed : ∀ skipped inner own, before = skipped ++ inner →
      Segment.ofLines (0 + skipped.length) (inner ++ line :: own) ∈
          (ofText t).segments .auto markers →
        (Scanner.fresh.feedAll inner).feed (withComment line note) =
          (Scanner.fresh.feedAll inner).feed line := by
    intro skipped inner own hbefore hmem
    rw [Nat.zero_add] at hmem
    have hcontains :
        (Segment.ofLines skipped.length (inner ++ line :: own)).contains before.length = true := by
      rw [Segment.contains_iff, hbefore]
      simp only [Segment.ofLines, List.length_append, List.length_cons]
      omega
    have hinner : (Segment.ofLines skipped.length (inner ++ line :: own)).textsBefore
        before.length = inner := by
      obtain ⟨front, own, _, hfront, hsegment, -, -, -, hown⟩ :=
        exists_taken_of_contains hmem hlines hcontains
      have hlength : skipped.length = front.length := congrArg Segment.first hsegment
      rw [hown]
      exact (List.append_inj (hfront.symm.trans hbefore) hlength.symm).2
    have hclosed := hcloses _ hmem hcontains
    rw [hinner] at hclosed
    exact hclosed.feed_withComment (Scanner.quoted_fresh.feedAll inner) note
  obtain ⟨replaced, hreplaced, hspans⟩ :=
    ((ofText t).segments_layout .auto markers).exists_replaced hlines
      (isSkippable_of_code hkeep hcode) (.withComment hkeep hcode hquotes note) hfeed
  rw [← hcommented] at hreplaced
  rw [← hspans, hreplaced.eq_divideFrom]
  rfl

/-- A mark behind a string that holds a `#`, inside a bracket. -/
theorem comment_moves_nothing_with_mark :
    cleanLine (withComment "  '#1',".toList " ?".toList) = "'#1',".toList ∧
      LineKind.ofLine (withComment "  '#1',".toList " ?".toList) = .expression ∧
      ((ofText "x = [\n  '#1',  # ?\n]\ny".toList).segments .auto .default).map Segment.span =
        [(0, 2), (3, 3)] := by
  have hsegments : (ofText "x = [\n  '#1',\n]\ny".toList).segments .auto .default =
      [⟨0, 2, "x = [\n  '#1',\n]".toList⟩, ⟨3, 3, "y".toList⟩] := by decide
  have hcloses : ∀ segment ∈ (ofText "x = [\n  '#1',\n]\ny".toList).segments .auto .default,
      segment.contains 1 = true →
        (Scanner.fresh.feedAll (segment.textsBefore 1)).Closes "  '#1',".toList := by
    intro segment hmem hcontains
    rw [hsegments, List.mem_cons, List.mem_singleton] at hmem
    rcases hmem with rfl | rfl
    · exact ⟨by decide, by decide⟩
    · have hapart : (⟨3, 3, "y".toList⟩ : Segment).contains 1 = false := by decide
      rw [hapart] at hcontains
      cases hcontains
  have hlines : (ofText "x = [\n  '#1',\n]\ny".toList).lines =
      ["x = [".toList] ++ "  '#1',".toList :: ["]".toList, "y".toList] := by decide
  have hcommented : (ofText "x = [\n  '#1',  # ?\n]\ny".toList).lines =
      ["x = [".toList] ++ withComment "  '#1',".toList " ?".toList ::
        ["]".toList, "y".toList] := by decide
  have hsame := comment_moves_nothing " ?".toList hlines hcommented (by decide) (by decide)
    (by decide) hcloses
  rw [hsame.1, hsame.2.1, hsame.2.2, hsegments]
  decide

end Document

end InlineEval
