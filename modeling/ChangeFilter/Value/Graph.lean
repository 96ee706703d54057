import ChangeFilter.Value.Basic

/-! # Documents with shared parts

    A YAML document can name a node with an anchor and use it again with an
    alias, so one container can stand in several places of a document, or
    inside itself. A `Graph` keeps such a document as it is: its cells are
    numbered, and a container holds the numbers of its items.

    `Graph.view g n` is the tree of cell `n`, read from that cell as a printer
    walks it: a container met again inside itself becomes `Value.back`, and
    any other container is unfolded wherever it stands. A container on no
    cycle has the same tree wherever it is met, so its tree is built once and
    then shared, and a document that repeats a part many times stays small.

    `Graph.ofValue` numbers the containers of a tree, each cell used once. -/

namespace ChangeFilter

/-- One cell of a document graph. -/
inductive Cell where
  /-- A value without items of its own: null, a boolean, a number, text, a
      date, a moment or a byte string. -/
  | scalar (v : Value)
  /-- A sequence of cells. -/
  | seq (items : List Nat)
  /-- A mapping from scalar keys to cells, in insertion order. -/
  | map (entries : List (Value × Nat))
  /-- A set of scalar values. -/
  | set (items : List Value)
  /-- A tuple of cells. -/
  | tuple (items : List Nat)
  deriving Inhabited

/-- A document as numbered cells, with the number of its root. -/
structure Graph where
  cells : Array Cell
  root : Nat
  deriving Inhabited

namespace Graph

/-- The cell with a number; a number past the end is null. -/
def cell (g : Graph) (n : Nat) : Cell :=
  g.cells.getD n (.scalar .null)

/-! ## Trees of cells -/

/-- The trees of the containers on no cycle that are built so far, by cell. -/
abbrev ViewM := StateM (Array (Option Value))

/-- The lower of two levels, where none is no level at all. -/
def lowest : Option Nat → Option Nat → Option Nat
  | some a, some b => some (min a b)
  | a, none => a
  | none, b => b

/-- The tree of cell `n` met below the open containers `stack` (innermost
    first), with the lowest level, counted from the outermost open container,
    that a `Value.back` in it names. `fresh` holds the cells not open, so that
    every step into a container takes one from it.

    The tree of a container is remembered when it names no level at or above
    its own: the container then lies on no cycle, so none of the cells below
    it is ever open where it is met. -/
def viewCell (g : Graph) (fresh stack : List Nat) (n : Nat) : ViewM (Value × Option Nat) := do
  match g.cell n with
  | .scalar v => pure (v, none)
  | .set items => pure (.set items, none)
  | c =>
    if let some v := (← get).getD n none then return (v, none)
    match stack.findIdx? (· == n) with
    | some d => pure (.back d (c matches .map _), some (stack.length - 1 - d))
    | none =>
      if _h : fresh.contains n then
        let level := stack.length
        let (v, low) ← match c with
          | .seq items => do
            let rs ← items.mapM fun m => viewCell g (fresh.erase n) (n :: stack) m
            pure (Value.seq (rs.map (·.1)), rs.foldl (fun acc r => lowest acc r.2) none)
          | .tuple items => do
            let rs ← items.mapM fun m => viewCell g (fresh.erase n) (n :: stack) m
            pure (Value.tuple (rs.map (·.1)), rs.foldl (fun acc r => lowest acc r.2) none)
          | .map entries => do
            let rs ← entries.mapM fun (k, m) => do
              let (v, low) ← viewCell g (fresh.erase n) (n :: stack) m
              pure ((k, v), low)
            pure (Value.map (rs.map (·.1)), rs.foldl (fun acc r => lowest acc r.2) none)
          | _ => pure (Value.null, none)
        if low.all (· > level) then modify (·.setIfInBounds n (some v))
        pure (v, low)
      else pure (.null, none)
termination_by fresh.length
decreasing_by
  all_goals
    have hm : n ∈ fresh := List.contains_iff_mem.mp _h
    have hl := List.length_erase_of_mem hm
    have hp := List.length_pos_of_mem hm
    omega

/-- The tree of a cell, read from that cell. -/
def view (g : Graph) (n : Nat) : Value :=
  match g.cell n with
  | .scalar v => v
  | .set items => .set items
  | _ => ((viewCell g (List.range g.cells.size) [] n).run (Array.replicate g.cells.size none)).1.1

/-- The tree of the root. -/
def rootView (g : Graph) : Value :=
  g.view g.root

/-! ## Graphs of trees -/

/-- Adds a cell and gives its number. -/
def push (c : Cell) : StateM (Array Cell) Nat :=
  modifyGet fun cs => (cs.size, cs.push c)

mutual
/-- Adds the cells of a tree, items before their container, and gives the
    number of its top cell. -/
def addValue : Value → StateM (Array Cell) Nat
  | .seq items => do push (.seq (← addAll items))
  | .tuple items => do push (.tuple (← addAll items))
  | .map entries => do push (.map (← addEntries entries))
  | .set items => push (.set items)
  | v => push (.scalar v)

/-- Adds the cells of each tree in order. -/
def addAll : List Value → StateM (Array Cell) (List Nat)
  | [] => pure []
  | v :: rest => do
    let n ← addValue v
    pure (n :: (← addAll rest))

/-- Adds the cells of each entry's value in order. -/
def addEntries : List (Value × Value) → StateM (Array Cell) (List (Value × Nat))
  | [] => pure []
  | (k, v) :: rest => do
    let n ← addValue v
    pure ((k, n) :: (← addEntries rest))
end

/-- The graph of a tree: every container is a cell of its own. -/
def ofValue (v : Value) : Graph :=
  let (root, cells) := (addValue v).run #[]
  ⟨cells, root⟩

end Graph

end ChangeFilter
