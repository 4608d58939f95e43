import InlineEval.Outcome.Report
import InlineEval.Proofs.Json.RoundTrip

/-! # Reports tell the whole outcome

What is written of an outcome and read again is that outcome, if no fault of the
process is part of it: members that are absent are written as null, variables
keep their order and their repetitions, and so do the entries of what was
printed.
-/

namespace InlineEval

open Text Json

theorem mapM_map_of_some {α β : Type} (write : α → β) (read : β → Option α)
    (hread : ∀ entry, read (write entry) = some entry) (entries : List α) :
    (entries.map write).mapM read = some entries := by
  induction entries with
  | nil => rfl
  | cons entry rest ih => simp [hread, ih]

namespace Json

theorem named?_ofFields (fields : List (Text × Json)) :
    named? (fields.map fun field => (some field.1, field.2)) = some fields :=
  mapM_map_of_some (fun field : Text × Json => ((some field.1 : Literal), field.2))
    (fun member => member.1.map (·, member.2)) (fun _ => rfl) fields

theorem nullableText?_ofText? (t : Option Text) : nullableText? (.ofText? t) = some t := by
  cases t <;> rfl

theorem whole_ofText? (t : Option Text) : (Json.ofText? t).Whole := by
  cases t with
  | none => exact .null
  | some t => exact .string (some t)

theorem whole_ofFields {fields : List (Text × Json)} (hfields : ∀ field ∈ fields, field.2.Whole) :
    (Json.ofFields fields).Whole := by
  refine .object fun member hmember => ?_
  obtain ⟨field, hfield, rfl⟩ := List.mem_map.mp hmember
  exact hfields field hfield

theorem word?_ofNat (n : UInt64) : word? (Json.ofNat n.toNat) = some n := by
  have hdigits := digitsFrom_ofNat n.toNat_lt
  simp [word?, Json.ofNat, hdigits]

end Json

namespace PrintEntry

theorem ofJson?_toJson (entry : PrintEntry) : ofJson? entry.toJson = some entry := by
  have hindex : required "index".toList word? [("index".toList, Json.ofNat entry.index.toNat),
      ("text".toList, .ofText entry.text)] = some entry.index := word?_ofNat entry.index
  have htext : required "text".toList text? [("index".toList, Json.ofNat entry.index.toNat),
      ("text".toList, .ofText entry.text)] = some entry.text := rfl
  rw [toJson, Json.ofFields, ofJson?, named?_ofFields, Option.bind_some, ofFields?, hindex, htext]
  rfl

theorem listOfJson?_toJson (prints : List PrintEntry) :
    listOfJson? (.array (prints.map toJson)) = some prints :=
  mapM_map_of_some toJson ofJson? ofJson?_toJson prints

theorem whole_toJson (entry : PrintEntry) : entry.toJson.Whole := by
  refine whole_ofFields ?_
  simp only [List.mem_cons, List.not_mem_nil, or_false, forall_eq_or_imp, forall_eq]
  exact ⟨.natural entry.index.toNat, .string (some entry.text)⟩

end PrintEntry

namespace Bindings

theorem ofJson?_toJson (bindings : Bindings) : ofJson? bindings.toJson = some bindings := by
  rw [toJson, Json.ofFields, ofJson?, named?_ofFields]
  exact mapM_map_of_some (fun binding : Text × Text => (binding.1, Json.ofText binding.2))
    (fun field => (text? field.2).map (field.1, ·)) (fun _ => rfl) bindings

theorem whole_toJson (bindings : Bindings) : bindings.toJson.Whole := by
  refine whole_ofFields fun field hfield => ?_
  obtain ⟨binding, _, rfl⟩ := List.mem_map.mp hfield
  exact .string (some binding.2)

end Bindings

namespace Outcome

theorem whole_toJson (outcome : Outcome) : outcome.toJson.Whole := by
  refine whole_ofFields ?_
  simp only [List.mem_cons, List.not_mem_nil, or_false, forall_eq_or_imp, forall_eq]
  refine ⟨.bool outcome.success, outcome.bindings.whole_toJson, whole_ofText? _, whole_ofText? _,
    whole_ofText? _, .array fun item hitem => ?_⟩
  obtain ⟨entry, _, rfl⟩ := List.mem_map.mp hitem
  exact entry.whole_toJson

theorem ofJson?_toJson {outcome : Outcome} (hfault : outcome.fault = none) :
    ofJson? outcome.toJson = some outcome := by
  obtain ⟨success, bindings, expression, output, error, prints, fault⟩ := outcome
  cases hfault
  rw [toJson, Json.ofFields, ofJson?, named?_ofFields, Option.bind_some]
  generalize hfields : [("success".toList, Json.bool success),
    ("variables".toList, bindings.toJson), ("expression".toList, .ofText? expression),
    ("output".toList, .ofText? output), ("error".toList, .ofText? error),
    ("print_outputs".toList, .array (prints.map PrintEntry.toJson))] = fields
  have hsuccess : required "success".toList bool? fields = some success := by
    rw [← hfields]
    rfl
  have hbindings : Json.optional "variables".toList [] Bindings.ofJson? fields = some bindings := by
    rw [← hfields]
    exact bindings.ofJson?_toJson
  have hexpression : Json.optional "expression".toList none nullableText? fields =
      some expression := by
    rw [← hfields]
    exact nullableText?_ofText? expression
  have houtput : Json.optional "output".toList none nullableText? fields = some output := by
    rw [← hfields]
    exact nullableText?_ofText? output
  have herror : Json.optional "error".toList none nullableText? fields = some error := by
    rw [← hfields]
    exact nullableText?_ofText? error
  have hprints : Json.optional "print_outputs".toList [] PrintEntry.listOfJson? fields =
      some prints := by
    rw [← hfields]
    exact PrintEntry.listOfJson?_toJson prints
  rw [ofFields?, hsuccess, hbindings, hexpression, houtput, herror, hprints]
  rfl

/-- An outcome is read back from its report in any legible format. -/
theorem parse?_renderAs {format : Format} (hlegible : format.Legible) {outcome : Outcome}
    (hfault : outcome.fault = none) : parse? (outcome.toJson.renderAs format) = some outcome := by
  rw [parse?, Json.parse?_renderAs hlegible outcome.whole_toJson]
  exact ofJson?_toJson hfault

end Outcome

end InlineEval
