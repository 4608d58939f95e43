import InlineEval.Program
import InlineEval.Proofs.Json.OneLine
import InlineEval.Proofs.Outcome.Report
import InlineEval.Proofs.Text.Lines

/-! # Annotations written as JSON

The annotations of a cycle are written on one line. The line is read as a
single JSON value, and that value has a member for each part of an annotation,
so no text can imitate the annotations of another cycle.
-/

namespace InlineEval

open Text Json

theorem Style.name_injective : Function.Injective Style.name := by
  intro style other hname
  cases style <;> cases other <;> first | rfl | exact absurd hname (by decide)

namespace Annotation

theorem whole_toJson (note : Annotation) : note.toJson.Whole := by
  refine whole_ofFields ?_
  simp only [List.mem_cons, List.not_mem_nil, or_false, forall_eq_or_imp, forall_eq]
  exact ⟨.natural note.line, .string (some note.text), .string (some note.style.name)⟩

theorem toJson_injective : Function.Injective toJson := by
  rintro ⟨line, text, style⟩ ⟨line', text', style'⟩ hjson
  simp only [toJson, Json.ofFields, Json.ofNat, Json.ofText, List.map_cons, List.map_nil,
    Json.object.injEq, List.cons.injEq, Prod.mk.injEq, Json.number.injEq, Json.string.injEq,
    Option.some.injEq, true_and, and_true] at hjson
  obtain ⟨hline, htext, hstyle⟩ := hjson
  rw [ofNat_injective hline, htext, Style.name_injective hstyle]

theorem whole_list (notes : List Annotation) : (Json.array (notes.map toJson)).Whole := by
  refine .array fun item hitem => ?_
  obtain ⟨note, -, rfl⟩ := List.mem_map.mp hitem
  exact note.whole_toJson

theorem renderList_isPrintable (notes : List Annotation) : IsPrintable (renderList notes) :=
  (whole_list notes).allowed_renderAs compact_printable

theorem parse?_renderList (notes : List Annotation) :
    Json.parse? (renderList notes) = some (.array (notes.map toJson)) :=
  Json.parse?_renderAs compact_legible (whole_list notes)

theorem renderList_injective : Function.Injective renderList := by
  intro first second hsame
  have hread := (parse?_renderList first).symm.trans
    ((congrArg Json.parse? hsame).trans (parse?_renderList second))
  rw [Option.some_inj, Json.array.injEq] at hread
  exact List.map_injective_iff.mpr toJson_injective hread

/-- What is printed as JSON of several cycles, one after another. -/
def printed (colour : Bool) (cycles : List (Text × List Annotation)) : Text :=
  cycles.flatMap fun cycle => Program.present true colour cycle.1 cycle.2

theorem printed_eq (colour : Bool) (cycles : List (Text × List Annotation)) :
    printed colour cycles = (cycles.map fun cycle => renderList cycle.2).flatMap (· ++ ['\n']) := by
  rw [List.flatMap_map]
  rfl

/-- Annotations are written without a control character, and different ones are
written differently. The lines of what is printed are those of the cycles, in
their order. -/
theorem renderList_told_apart (first second : List Annotation) (colour : Bool)
    (cycles : List (Text × List Annotation)) :
    IsPrintable (renderList first) ∧
      (renderList first = renderList second ↔ first = second) ∧
      lines (printed colour cycles) = cycles.map fun cycle => renderList cycle.2 := by
  refine ⟨renderList_isPrintable first, renderList_injective.eq_iff, ?_⟩
  rw [printed_eq]
  refine lines_flatMap_newline fun line hline => ?_
  obtain ⟨cycle, -, rfl⟩ := List.mem_map.mp hline
  have hprintable := renderList_isPrintable cycle.2
  exact ⟨hprintable.newline_not_mem, hprintable.carriageReturn_not_mem⟩

end Annotation

end InlineEval
