import InlineEval.Text.Basic

/-!
# Errors of the operating system

The few ways in which reading a file or starting a program fails, with the
texts in which the operating system explains them.
-/

namespace InlineEval

/-- Why the operating system could not do what it was asked for. -/
inductive SystemError where
  | notFound
  | permissionDenied
  | notDirectory
  | isDirectory
  | nameTooLong
  /-- A path with a zero character in it. -/
  | embeddedZero
  /-- The contents are not UTF-8. -/
  | notText
  /-- Anything else, explained by the system itself. -/
  | other (explanation : Text)
  deriving DecidableEq, Repr

def SystemError.message : SystemError → Text
  | notFound => "No such file or directory (os error 2)".toList
  | permissionDenied => "Permission denied (os error 13)".toList
  | notDirectory => "Not a directory (os error 20)".toList
  | isDirectory => "Is a directory (os error 21)".toList
  | nameTooLong => "File name too long (os error 36)".toList
  | embeddedZero => "nul byte found in provided data".toList
  | notText => "stream did not contain valid UTF-8".toList
  | other explanation => explanation

end InlineEval
