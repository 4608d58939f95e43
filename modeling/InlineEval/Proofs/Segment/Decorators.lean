import InlineEval.Proofs.Segment.Stages
import InlineEval.Proofs.Segment.Partition

/-! # Decorators and their definition

Decorators wait for the header of their definition, and the header joins them.
Away from the margin a run of decorators grows like any other draft. At the
margin each decorator starts a draft of its own, so that only the last one is
still open when the header comes.
-/

namespace InlineEval

open Text

/-- A decorator: a line of its own that starts with an at sign and is not
marked. -/
structure IsDecorator (markers : MarkerSet) (line : Text) : Prop where
  head_eq : (trim line).head? = some '@'
  unmarked : markers.marks line = false
  complete : (Scanner.fresh.feed line).continues = false

/-- A header with decorators directly in front of it, all of them indented
alike. -/
structure IsDecorated (markers : MarkerSet) (run : List Text) (header : Text) : Prop where
  run_ne_nil : run ≠ []
  decorators : ∀ line ∈ run, IsDecorator markers line
  indentation_eq : ∀ line ∈ run, indentation line = indentation header
  opens : opensCompound (trim header) = true

instance (markers : MarkerSet) (line : Text) : Decidable (IsDecorator markers line) :=
  decidable_of_iff ((trim line).head? = some '@' ∧ markers.marks line = false ∧
      (Scanner.fresh.feed line).continues = false)
    ⟨fun h => ⟨h.1, h.2.1, h.2.2⟩, fun h => ⟨h.head_eq, h.unmarked, h.complete⟩⟩

instance (markers : MarkerSet) (run : List Text) (header : Text) :
    Decidable (IsDecorated markers run header) :=
  decidable_of_iff (run ≠ [] ∧ (∀ line ∈ run, IsDecorator markers line) ∧
      (∀ line ∈ run, indentation line = indentation header) ∧ opensCompound (trim header) = true)
    ⟨fun h => ⟨h.1, h.2.1, h.2.2.1, h.2.2.2⟩,
      fun h => ⟨h.run_ne_nil, h.decorators, h.indentation_eq, h.opens⟩⟩

/-- A header stands at the start of a statement in these lines. -/
def HoldHeader (lines : List Text) : Prop :=
  ∃ before header after, lines = before ++ header :: after ∧
    (Scanner.fresh.feedAll before).continues = false ∧ opensCompound (trim header) = true

namespace IsDecorator

variable {markers : MarkerSet} {line : Text}

theorem isDecoration (hdecorator : IsDecorator markers line) : isDecoration line = true := by
  have hhead := hdecorator.head_eq
  rw [head?_trim] at hhead
  simp [InlineEval.isDecoration, hhead]

theorem not_opensCompound (hdecorator : IsDecorator markers line) :
    opensCompound (trim line) = false :=
  opensCompound_eq_false (startsWithWord_of_isDecoration hdecorator.isDecoration)

theorem not_isSkippable (hdecorator : IsDecorator markers line) :
    isSkippable markers line = false := by
  have hhead := hdecorator.head_eq
  have hblank : isBlank line = false := by
    rw [Bool.eq_false_iff]
    intro hblank
    rw [trim_of_isBlank hblank] at hhead
    cases hhead
  simp [isSkippable, hblank, hhead]

end IsDecorator

namespace Draft

variable {mode : Mode} {markers : MarkerSet} {draft : Draft} {inner tail : List Text}
  {first : Text}

/-- A decorator that is not the first line of its draft stands away from the
margin, and deeper than the header of the compound statement that is open. -/
theorem Grown.stage_of_decorator (hgrown : draft.Grown mode markers)
    (hseen : draft.seen = inner ++ first :: tail) (hinner : inner ≠ [])
    (hfinished : (Scanner.fresh.feedAll inner).continues = false)
    (hdecorator : IsDecorator markers first) :
    ∃ stage : Draft, stage.Grown mode markers ∧ stage.seen = inner ∧ indentation first ≠ 0 ∧
      ∀ base : Nat, stage.base = some base →
        draft.base = some base ∧ base < indentation first := by
  obtain ⟨stage, next, hstage, rfl, htakes, hopen⟩ := hgrown.stage hseen hinner
  rw [← hstage.scan_eq] at hfinished
  refine ⟨stage, hstage, rfl, ?_⟩
  cases htakes with
  | unfinished hscan =>
      rw [hfinished] at hscan
      cases hscan
  | held _ hskip =>
      rw [hdecorator.not_isSkippable] at hskip
      cases hskip
  | inside _ _ hbase hindent =>
      rcases hindent with hdeeper | ⟨_, hclause⟩
      · refine ⟨by omega, fun base hsome => ?_⟩
        cases hbase.symm.trans hsome
        exact ⟨hopen _ hbase, hdeeper⟩
      · have hopens := opensCompound_of_isClause hclause
        rw [hdecorator.not_opensCompound] at hopens
        cases hopens
  | decorated _ _ _ hopens =>
      rw [hdecorator.not_opensCompound] at hopens
      cases hopens
  | indented _ _ hbase _ _ hindent =>
      refine ⟨hindent, fun base hsome => ?_⟩
      cases hbase.symm.trans hsome

/-- Decorators accept one another away from the margin, and they accept the
header behind them. -/
theorem Grown.accepts_decorated (hgrown : draft.Grown mode markers) {run : List Text}
    {header line : Text} (hdecorated : IsDecorated markers run header)
    (hseen : draft.seen = inner ++ first :: tail)
    (hbegins : first :: tail ++ [line] <+: run ++ [header])
    (hfinished : (Scanner.fresh.feedAll inner).continues = false)
    (hmargin : indentation header = 0 → run.length = 1)
    (hplace : indentation header ≠ 0 →
      HoldHeader inner ∨ ∀ earlier ∈ inner, isDecoration earlier = true) :
    draft.accept mode markers line ≠ none := by
  have hrun : (∀ earlier ∈ first :: tail, earlier ∈ run) ∧
      (line = header ∨ line ∈ run ∧ 1 < run.length) := by
    rcases List.prefix_concat_iff.mp hbegins with heq | hinside
    · obtain ⟨rfl, hlast⟩ := List.append_inj' heq rfl
      cases hlast
      exact ⟨fun _ => id, .inl rfl⟩
    · have hlength := hinside.length_le
      simp only [List.length_append, List.length_cons, List.length_nil] at hlength
      exact ⟨fun earlier hmem => hinside.mem (List.mem_append_left _ hmem),
        .inr ⟨hinside.mem (List.mem_append_right _ (List.mem_singleton_self line)), by omega⟩⟩
  obtain ⟨hseenRun, hline⟩ := hrun
  have hfirst := hseenRun first List.mem_cons_self
  have hindent : indentation line = indentation first := by
    rw [hdecorated.indentation_eq first hfirst]
    rcases hline with rfl | ⟨hline, _⟩
    · rfl
    · exact hdecorated.indentation_eq line hline
  refine accept_ne_none fun hscan hkeep => ?_
  have hcases : HoldHeader inner ∨ ∀ earlier ∈ inner, isDecoration earlier = true := by
    by_cases hinner : inner = []
    · exact .inr (by simp [hinner])
    · obtain ⟨_, _, _, hdeep, _⟩ :=
        hgrown.stage_of_decorator hseen hinner hfinished (hdecorated.decorators first hfirst)
      rw [hdecorated.indentation_eq first hfirst] at hdeep
      exact hplace hdeep
  rcases hcases with ⟨before, opener, after, hinner, hbefore, hopens⟩ | hinner
  · -- The run stands inside a compound statement, and so does the header.
    obtain ⟨stage, hstage, hstageSeen, _, hopen⟩ :=
      hgrown.stage_of_decorator hseen (by simp [hinner]) hfinished
        (hdecorated.decorators first hfirst)
    obtain ⟨base, hbase⟩ := hstage.exists_base (hstageSeen.trans hinner) hbefore hopens
    obtain ⟨hbase, hdeeper⟩ := hopen base hbase
    simp [accept_eq_some_iff.mpr (.inside hscan hkeep hbase (.inl (hindent ▸ hdeeper)))]
  · -- The draft has seen nothing but decorations, so it waits for a header.
    have hseenAll : ∀ earlier ∈ draft.seen, isDecoration earlier = true := by
      intro earlier hmem
      rw [hseen, List.mem_append] at hmem
      rcases hmem with hmem | hmem
      · exact hinner earlier hmem
      · exact (hdecorated.decorators earlier (hseenRun earlier hmem)).isDecoration
    have hbase := hgrown.base_eq_none_of_forall fun earlier hmem =>
      opensCompound_eq_false (startsWithWord_of_isDecoration (hseenAll earlier hmem))
    rcases hline with rfl | ⟨hline, hlong⟩
    · have hdecorators : draft.onlyDecorators = true := by
        rw [onlyDecorators_eq, List.all_eq_true]
        exact fun earlier hmem => hseenAll earlier (List.mem_append_left _ hmem)
      simp [accept_eq_some_iff.mpr (.decorated hscan hkeep hbase hdecorated.opens hdecorators)]
    · have hdecorator := hdecorated.decorators line hline
      have halone : ¬ (mode = .explicit ∧ markers.marks line = true) := by
        simp [hdecorator.unmarked]
      have hdeep : indentation line ≠ 0 := by
        intro hzero
        rw [hdecorated.indentation_eq line hline] at hzero
        have hshort := hmargin hzero
        omega
      simp [accept_eq_some_iff.mpr
        (.indented hscan hkeep hbase hdecorator.not_opensCompound halone hdeep)]

end Draft

/-- A piece of a document that takes the first of a run of decorators takes
them all, and their header. -/
theorem Taken.covers_decorated {mode : Mode} {markers : MarkerSet}
    {texts rest inner run after : List Text} {header : Text}
    (htaken : Taken mode markers texts rest) (hdecorated : IsDecorated markers run header)
    (hfrom : texts ++ rest = inner ++ (run ++ header :: after))
    (hinner : inner.length < texts.length)
    (hfinished : (Scanner.fresh.feedAll inner).continues = false)
    (hmargin : indentation header = 0 → run.length = 1)
    (hplace : indentation header ≠ 0 →
      HoldHeader inner ∨ ∀ earlier ∈ inner, isDecoration earlier = true) :
    inner ++ (run ++ [header]) <+: texts := by
  obtain ⟨first, others, rfl⟩ := List.exists_cons_of_ne_nil hdecorated.run_ne_nil
  cases htaken with
  | alone _ _ halone =>
      -- One line alone would be the first decorator, and that has no mark.
      have hnil : inner = [] := List.length_eq_zero_iff.mp (Nat.lt_one_iff.mp hinner)
      rw [hnil] at hfrom
      cases hfrom
      have hunmarked := (hdecorated.decorators first List.mem_cons_self).unmarked
      rw [hunmarked] at halone
      cases halone.2
  | @grown draft rest hgrown hrefused =>
      rw [← List.append_assoc] at hfrom
      have howned : inner ++ (first :: others ++ [header]) <+: draft.seen ++ rest := by
        rw [Draft.seen, hfrom, List.prefix_append_right_inj,
          List.prefix_append_right_inj (first :: others)]
        exact List.prefix_append [header] after
      have hseen : inner ++ (first :: others ++ [header]) <+: draft.seen := by
        refine Draft.prefix_seen hrefused howned fun line hline => ?_
        obtain ⟨seen, hseen⟩ : inner <+: draft.seen := by
          refine List.prefix_of_prefix_length_le ((List.prefix_append inner _).trans howned)
            (List.prefix_append draft.seen rest) ?_
          rw [Draft.seen, List.length_append]
          omega
        rw [← hseen, List.append_assoc, List.prefix_append_right_inj] at hline
        cases seen with
        | nil =>
            have hlength := congrArg List.length hseen
            simp only [Draft.seen, List.length_append, List.length_nil] at hlength
            omega
        | cons head tail =>
            exact hgrown.accepts_decorated hdecorated hseen.symm hline hfinished hmargin hplace
      have hheader : ¬ isSkippable markers header = true := by
        simp [isSkippable_eq_false_of_opensCompound hdecorated.opens]
      have hlines := hgrown.prefix_lines hseen
      rwa [← List.append_assoc, List.rdropWhile_concat_neg _ _ _ hheader,
        List.append_assoc] at hlines

namespace Document

/-- Decorators stand in the segment of their definition if they do so alone at
the margin, or if away from the margin the segment has nothing but decorations
in front of them, or the header of a compound statement. -/
theorem decorators_join_definition {t : Text} {mode : Mode} {markers : MarkerSet}
    {before run after : List Text} {header : Text}
    (hlines : (ofText t).lines = before ++ (run ++ header :: after))
    (hdecorated : IsDecorated markers run header)
    (hfinished : ∀ segment ∈ (ofText t).segments mode markers,
      segment.contains before.length = true →
        (Scanner.fresh.feedAll (segment.textsBefore before.length)).continues = false)
    (hmargin : indentation header = 0 → run.length = 1)
    (hplace : indentation header ≠ 0 → ∀ segment ∈ (ofText t).segments mode markers,
      segment.contains before.length = true →
        HoldHeader (segment.textsBefore before.length) ∨
          ∀ line ∈ segment.textsBefore before.length, isDecoration line = true) :
    ∃ segment ∈ (ofText t).segments mode markers, ∀ i,
      before.length ≤ i → i ≤ before.length + run.length → segment.contains i = true := by
  obtain ⟨segment, hmem, hcontains⟩ : ∃ segment ∈ (ofText t).segments mode markers,
      segment.contains before.length = true := by
    obtain ⟨first, others, rfl⟩ := List.exists_cons_of_ne_nil hdecorated.run_ne_nil
    exact exists_segment_of_line? (by simp [line?, hlines])
      (hdecorated.decorators first List.mem_cons_self).not_isSkippable
  obtain ⟨skipped, inner, rest, rfl, hsegment, htaken, hfrom, hlength, hinner⟩ :=
    exists_taken_of_contains hmem hlines hcontains
  have hfinishedInner := hfinished segment hmem hcontains
  have hplaceInner := fun hdeep => hplace hdeep segment hmem hcontains
  rw [hinner] at hfinishedInner hplaceInner
  have hcovers := (htaken.covers_decorated hdecorated hfrom hlength hfinishedInner hmargin
    hplaceInner).length_le
  refine ⟨segment, hmem, fun i hge hle => Segment.contains_iff.mpr ?_⟩
  have hfirst : segment.first = skipped.length := congrArg Segment.first hsegment
  have hlast : segment.last = skipped.length + segment.texts.length - 1 :=
    congrArg Segment.last hsegment
  simp only [List.length_append, List.length_cons, List.length_nil] at hcovers hge hle
  omega

/-- Two decorators in the body of a class. -/
theorem decorators_join_definition_in_class :
    let doc := ofText "class A:\n    @a\n    @b\n    def f(self):\n        pass".toList
    doc.lines = ["class A:".toList] ++ (["    @a".toList, "    @b".toList] ++
        "    def f(self):".toList :: ["        pass".toList]) ∧
      ∃ segment ∈ doc.segments .explicit .default, ∀ i, 1 ≤ i → i ≤ 3 →
        segment.contains i = true := by
  have hlines : (ofText "class A:\n    @a\n    @b\n    def f(self):\n        pass".toList).lines =
      ["class A:".toList] ++ (["    @a".toList, "    @b".toList] ++
        "    def f(self):".toList :: ["        pass".toList]) := by decide
  have hsegments :
      (ofText "class A:\n    @a\n    @b\n    def f(self):\n        pass".toList).segments .explicit
          .default =
        [⟨0, 4, "class A:\n    @a\n    @b\n    def f(self):\n        pass".toList⟩] := by decide
  refine ⟨hlines, decorators_join_definition hlines (by decide) ?_ (by decide) ?_⟩
  · rw [hsegments]
    decide
  · intro _ segment hmem _
    rw [hsegments, List.mem_singleton] at hmem
    subst hmem
    exact .inl ⟨[], "class A:".toList, [], by decide, by decide, by decide⟩

/-- The first of two decorators at the margin is left behind. -/
theorem decorator_left_at_margin :
    ¬ ∀ (t : Text) (mode : Mode) (markers : MarkerSet) (before run after : List Text)
        (header : Text), (ofText t).lines = before ++ (run ++ header :: after) →
      IsDecorated markers run header →
      (∀ segment ∈ (ofText t).segments mode markers, segment.contains before.length = true →
        (Scanner.fresh.feedAll (segment.textsBefore before.length)).continues = false) →
      ∃ segment ∈ (ofText t).segments mode markers, ∀ i,
        before.length ≤ i → i ≤ before.length + run.length → segment.contains i = true := by
  intro hclaim
  obtain ⟨segment, hmem, hjoined⟩ := hclaim "@a\n@b\ndef f():\n    pass".toList .auto .default []
    ["@a".toList, "@b".toList] ["    pass".toList] "def f():".toList (by decide) (by decide)
    (by decide)
  have hapart : ∀ segment ∈ (ofText "@a\n@b\ndef f():\n    pass".toList).segments .auto .default,
      ¬ (segment.contains 0 = true ∧ segment.contains 2 = true) := by decide
  exact hapart segment hmem ⟨hjoined 0 (by decide) (by decide), hjoined 2 (by decide) (by decide)⟩

end Document

end InlineEval
