import InlineEval.Proofs.Text.Lines
import InlineEval.Proofs.Text.Trim
import InlineEval.Settings.Config

/-! # Assignments of a settings file

What a settings file says is said line by line. The last assignment to a name
counts. A line that assigns nothing, or assigns to a name that cannot be set,
might as well not be there, except that the name is reported.
-/

namespace InlineEval

open Text

namespace Key

end Key

namespace Config

variable {line name value : Text} {lines : List Text} {key : Key}

/-! ## What a line says -/

/-- The line is no comment, and up to white space it is the name, an equals
sign and the value. The first equals sign counts. -/
def Assigns (line name value : Text) : Prop :=
  (trim line).head? ≠ some '#' ∧ ∃ left right, trim line = left ++ '=' :: right ∧
    '=' ∉ left ∧ name = trim left ∧ value = trim right

theorem assignment?_eq_some_iff :
    assignment? line = some (name, value) ↔ Assigns line name value := by
  simp only [assignment?, Assigns]
  constructor
  · intro hassigned
    split at hassigned
    next => cases hassigned
    next hcode =>
      obtain ⟨⟨left, right⟩, hsplit, hparts⟩ := Option.map_eq_some_iff.mp hassigned
      cases hparts
      obtain ⟨hline, hleft⟩ := splitOnce_eq_some_iff.mp hsplit
      simp only [Bool.or_eq_true, beq_iff_eq, not_or] at hcode
      exact ⟨hcode.2, left, right, hline, hleft, rfl, rfl⟩
  · rintro ⟨hcode, left, right, hline, hleft, rfl, rfl⟩
    have hsplit := splitOnce_eq_some_iff.mpr ⟨hline, hleft⟩
    have hne : (trim line).isEmpty = false := by simp [hline]
    simp [hne, hcode, hsplit]

theorem Assigns.unique {name' value' : Text} (hassigns : Assigns line name value)
    (hassigns' : Assigns line name' value') : name' = name ∧ value' = value := by
  have heq := (assignment?_eq_some_iff.mpr hassigns').symm.trans
    (assignment?_eq_some_iff.mpr hassigns)
  simpa using heq

/-- The names that lines assign to and that cannot be set, line by line. -/
inductive Reports : List Text → List Text → Prop
  | nil : Reports [] []
  | unknown {line name value : Text} {lines names : List Text} (hassigns : Assigns line name value)
      (hunknown : ∀ key : Key, key.name ≠ name) (hrest : Reports lines names) :
      Reports (line :: lines) (name :: names)
  | other {line : Text} {lines names : List Text}
      (hother : ∀ name value, Assigns line name value → ∃ key : Key, key.name = name)
      (hrest : Reports lines names) : Reports (line :: lines) names

theorem Reports.unique {names names' : List Text} (hreports : Reports lines names)
    (hreports' : Reports lines names') : names' = names := by
  induction hreports generalizing names' with
  | nil =>
      cases hreports'
      rfl
  | unknown hassigns hunknown _ ih =>
      cases hreports' with
      | unknown hassigns' _ hrest => rw [(hassigns.unique hassigns').1, ih hrest]
      | other hother =>
          obtain ⟨key, hname⟩ := hother _ _ hassigns
          exact absurd hname (hunknown key)
  | other hother _ ih =>
      cases hreports' with
      | unknown hassigns hunknown =>
          obtain ⟨key, hname⟩ := hother _ _ hassigns
          exact absurd hname (hunknown key)
      | other _ hrest => exact ih hrest

/-- The first pieces of a file as lines, up to one that is no text. -/
inductive Readable : List (List UInt8) → List Text → Prop
  | nil : Readable [] []
  | line {piece : List UInt8} {pieces : List (List UInt8)} {line : Text} {lines : List Text}
      (hpiece : Utf8.decode? piece = some line) (hrest : Readable pieces lines) :
      Readable (piece :: pieces) (line :: lines)
  | unreadable {piece : List UInt8} {pieces : List (List UInt8)}
      (hpiece : Utf8.decode? piece = none) : Readable (piece :: pieces) []

/-- The lines that can be read of a file; there are none if the file is
missing. -/
def Reads (file : Option (List UInt8)) (lines : List Text) : Prop :=
  match file with
  | none => lines = []
  | some bytes => Readable (split 0x0A bytes) lines

end Config

end InlineEval
