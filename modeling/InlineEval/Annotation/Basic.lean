import InlineEval.Json.Printer

/-!
# Annotations

An annotation is a text to be shown beside a source line, with the style in
which to show it. The list of annotations of a cycle is also written as JSON,
on one line.
-/

namespace InlineEval

open Text

/-- How an annotation is to be presented. -/
inductive Style where
  | value
  | error
  | waiting
  | threading
  | performance
  deriving DecidableEq, Repr

def Style.name : Style → Text
  | value => "value".toList
  | error => "error".toList
  | waiting => "waiting".toList
  | threading => "threading".toList
  | performance => "performance".toList

/-- Text beside a source line. -/
structure Annotation where
  line : Nat
  text : Text
  style : Style
  deriving DecidableEq, Repr

namespace Annotation

def value (line : Nat) (text : Text) : Annotation := ⟨line, text, .value⟩

/-- The message of a failure. -/
def error (line : Nat) (message : Text) : Annotation :=
  ⟨line, " ⚠ ".toList ++ message, .error⟩

/-- What stands beside a line while its segment runs. -/
def waiting (line : Nat) : Annotation := ⟨line, " ⏳ evaluating…".toList, .waiting⟩

/-- The time that a segment took. -/
def timing (line ms : Nat) : Annotation :=
  ⟨line, " ⏱ ".toList ++ ofNat ms ++ " ms".toList, .performance⟩

def toJson (note : Annotation) : Json :=
  Json.ofFields
    [("line".toList, Json.ofNat note.line), ("text".toList, .ofText note.text),
      ("style".toList, .ofText note.style.name)]

def renderList (annotations : List Annotation) : Text :=
  Json.render (.array (annotations.map toJson))

end Annotation

end InlineEval
