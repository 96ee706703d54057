import ChangeFilter.Rules.Table

/-! # Matching changed files against a table

    A quantifier says how the predicates of one filter combine: `some` (`any`)
    asks for one predicate that accepts the file, `every` (`all`) for all of
    them. A filter
    without predicates matches nothing under either quantifier. -/

namespace ChangeFilter.Rules

/-- How the predicates of a filter combine. -/
inductive Quantifier where
  /-- At least one predicate accepts. -/
  | any
  /-- Every predicate accepts. -/
  | all
  deriving DecidableEq, Repr, Inhabited

/-- The name of a quantifier. -/
def Quantifier.name : Quantifier → String
  | .any => "some"
  | .all => "every"

/-- The quantifier named by a value: exactly the text `some` or `every`. -/
def Quantifier.ofValue? : Value → Option Quantifier
  | .str "some" => some .any
  | .str "every" => some .all
  | _ => none

/-- Whether a file satisfies a filter's predicates under a quantifier. -/
def isMatch (q : Quantifier) (predicates : List Predicate) (f : ChangedFile) : Bool :=
  !predicates.isEmpty &&
    match q with
    | .any => predicates.any (·.accepts f)
    | .all => predicates.all (·.accepts f)

/-- Every filter with the files it matches, in table order and file order. -/
def Table.matchFiles (t : Table) (q : Quantifier) (files : List ChangedFile) :
    List (String × List ChangedFile) :=
  t.rules.map fun r => (r.name, files.filter (isMatch q r.predicates))

/-- Whether the named filter matches a file; `none` when no filter has that name. -/
def Table.matches? (t : Table) (q : Quantifier) (name : String) (f : ChangedFile) : Option Bool :=
  (t.rules.find? (·.name == name)).map fun r => isMatch q r.predicates f

/-- The names of the filters a file matches, in table order. -/
def Table.matchingNames (t : Table) (q : Quantifier) (f : ChangedFile) : List String :=
  (t.rules.filter fun r => isMatch q r.predicates f).map (·.name)

end ChangeFilter.Rules
