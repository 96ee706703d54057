/-! # Error codes

    Every refusal of the tool carries a code that says which kind of trouble
    stopped it: bad input, something missing, no permission, a failing
    dependency (git), or a fault of the tool itself. -/

namespace ChangeFilter

/-- The kind of trouble behind a refusal. -/
inductive ErrorCode where
  /-- A bad filter document or an invalid setting. -/
  | invalidInput
  /-- A file or ref that does not exist. -/
  | notFound
  /-- A file that cannot be read. -/
  | permissionDenied
  /-- git failed or is missing. -/
  | dependencyError
  /-- A fault of the tool, such as a command that timed out. -/
  | internalError
  deriving DecidableEq, Repr, Inhabited

/-- The number of a code. -/
def ErrorCode.number : ErrorCode → Nat
  | .invalidInput => 1
  | .notFound => 2
  | .permissionDenied => 3
  | .dependencyError => 5
  | .internalError => 6

end ChangeFilter
