/-! # Changed files

    A change set is a list of changed files, each a repository path with the
    way it changed between two revisions. Statuses are ordered as listed, and
    a set of statuses is kept as a list in that order without repeats. -/

namespace ChangeFilter

/-- How a file differs between two revisions. -/
inductive Status where
  | added
  | copied
  | deleted
  | modified
  | renamed
  | unmerged
  deriving DecidableEq, Repr, Inhabited

namespace Status

/-- Every status, in order. -/
def all : List Status := [.added, .copied, .deleted, .modified, .renamed, .unmerged]

/-- The name of a status. -/
def name : Status → String
  | .added => "added"
  | .copied => "copied"
  | .deleted => "deleted"
  | .modified => "modified"
  | .renamed => "renamed"
  | .unmerged => "unmerged"

/-- The status with a given name. -/
def ofName? (s : String) : Option Status :=
  all.find? (·.name == s)

/-- The status of a letter of a name-status diff: `A`, `C`, `D`, `M`, `R`, `U`. -/
def ofLetter? : String → Option Status
  | "A" => some .added
  | "C" => some .copied
  | "D" => some .deleted
  | "M" => some .modified
  | "R" => some .renamed
  | "U" => some .unmerged
  | _ => none

/-- The statuses of a list, in order and without repeats. -/
def setOf (xs : List Status) : List Status :=
  all.filter (xs.contains ·)

theorem ofName?_name (s : Status) : ofName? s.name = some s := by
  cases s <;> rfl

end Status

/-- A file touched by a change set. -/
structure ChangedFile where
  path : String
  status : Status
  deriving DecidableEq, Repr, Inhabited

/-- A changed file as `path [status]`. -/
def ChangedFile.display (f : ChangedFile) : String :=
  f.path ++ " [" ++ f.status.name ++ "]"

end ChangeFilter
