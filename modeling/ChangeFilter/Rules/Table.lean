import ChangeFilter.Rules.Item
import ChangeFilter.Glob.Match

/-! # Rule tables

    Compiling a filter document gives a `Table`: its filters in document order,
    each a name with predicates, one per pattern leaf of its rule, depth first.
    A predicate holds a pattern, its status set and the path test made from
    the pattern.

    The path tests come from a pattern compiler given as an argument; `compile`
    refuses a document at its first bad entry in document order, and within an
    entry a bad name before a bad rule node, and a bad rule node anywhere in the
    tree before a pattern that does not compile. -/

namespace ChangeFilter.Rules

/-- One test of a filter: a status set (empty for any status) and a path test. -/
structure Predicate where
  pattern : String
  statuses : List Status
  test : String → Bool

/-- Whether a predicate accepts a changed file: its status is allowed and its
    path passes the test. -/
def Predicate.accepts (p : Predicate) (f : ChangedFile) : Bool :=
  (p.statuses.isEmpty || p.statuses.contains f.status) && p.test f.path

/-- A named filter. -/
structure Rule where
  name : String
  predicates : List Predicate

/-- The filters of a document, in document order. -/
structure Table where
  rules : List Rule

/-- A pattern compiler: a path test, or the reason a pattern is refused. -/
abbrev PatternCompiler := String → Except FormatError (String → Bool)

/-- The glob compiler: a pattern with a reversed class range is refused. -/
def globCompiler : PatternCompiler := fun p =>
  match Glob.compile p with
  | .ok pat => .ok pat.accepts
  | .error _ => .error (.badGlob p)

/-- Compiles one rule cell into its predicates, depth first. -/
def compileItem (g : PatternCompiler) (doc : Graph) (n : Nat) : Except LoadError (List Predicate) := do
  let item ← decode doc n
  (item.leaves.mapM fun (statuses, p) => do
    let test ← g p
    pure ({ pattern := p, statuses, test } : Predicate)).mapError .format

/-- Accepts a filter name: non-empty text. -/
def checkName : Value → Except FormatError String
  | .str s => if s.isEmpty then .error .emptyName else .ok s
  | v => .error (.nameNotText v)

/-- Compiles a filter document: a mapping from filter names to rule cells. -/
def compile (g : PatternCompiler) (doc : Graph) : Except LoadError Table :=
  match doc.cell doc.root with
  | .map entries => do
    let rules ← entries.mapM fun (k, n) => do
      let name ← (checkName k).mapError .format
      let predicates ← compileItem g doc n
      pure { name, predicates : Rule }
    pure ⟨rules⟩
  | _ => .error (.format (.rootNotMapping doc.rootView))

/-- The filter names, in order. -/
def Table.names (t : Table) : List String :=
  t.rules.map (·.name)

/-- The table as `RuleTable({name: count, …})`, with each filter's number of
    predicates. -/
def Table.summary (t : Table) : String :=
  "RuleTable(\x7b" ++ ", ".intercalate (t.rules.map fun r => r.name ++ ": " ++ toString r.predicates.length) ++ "\x7d)"

end ChangeFilter.Rules
