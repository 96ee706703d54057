import ChangeFilter.Yaml.Node
import ChangeFilter.Yaml.Scalar
import ChangeFilter.Value.Graph

/-! # From YAML nodes to a document graph

    `Document.toGraph` makes the value of each node once, so an alias gives
    the very value of its anchor's node, and a collection can hold itself.
    A scalar is made when it is first met. A collection is made empty when it
    is first met and filled later, in the order the collections were made:
    the collections met while one is filled wait behind all those made before
    them. The order matters, because filling a mapping changes nodes that
    other collections may hold.

    * `seq` on a sequence holds the values of its items.
    * `omap` and `pairs` on a sequence of one-entry mappings hold the pairs of
      a key and a value, as those mappings stand when the list is filled.
    * `map` and `set` on a mapping: first the mapping takes in the entries of
      the mappings that its `<<` keys name, in front of its own (of a list of
      mappings, the later ones first, so that the earlier ones win), and a
      key tagged `=` becomes a string key. These changes are made to the nodes
      themselves and stay for every later use of them. Then every key must be
      a scalar; two keys are one when they are the same value, or equal as
      `Value.sameKey` says, and all `.nan` floats are the same value. A
      repeated key keeps its first place and takes the last value.
    * Scalars are made as `scalarValue` says; any other tag, or a tag on a
      node of the wrong kind, makes the document unreadable. -/

namespace ChangeFilter.Yaml

/-- The state of making the values of a document. -/
structure Maker where
  /-- The nodes, as merging has left them so far. -/
  nodes : Array Node
  /-- The cell each node was made into, once made. -/
  made : Array (Option Nat)
  /-- The cells made so far. -/
  cells : Array Cell
  /-- The collections made empty and not yet filled, oldest first: the
      number of the node and of its cell. -/
  waiting : List (Nat × Nat)
  /-- The cell of the NaN that every `.nan` scalar is, once made. -/
  sharedNaN : Option Nat

/-- Computations that make values. -/
abbrev MakeM := StateT Maker (Except Error)

namespace Make

/-- The node with a number, as it stands now. -/
def node (n : Nat) : MakeM Node := do
  pure ((← get).nodes.getD n (.scalar "" ""))

/-- Replaces the node with a number. -/
def setNode (n : Nat) (nd : Node) : MakeM Unit :=
  modify fun s => { s with nodes := s.nodes.setIfInBounds n nd }

/-- The entries of a mapping node as they stand now; none for other nodes. -/
def entriesOf (n : Nat) : MakeM (List (Nat × Nat)) := do
  match ← node n with
  | .map _ es => pure es
  | _ => pure []

/-- Replaces the entries of a mapping node. -/
def setEntries (n : Nat) (es : List (Nat × Nat)) : MakeM Unit := do
  match ← node n with
  | .map t _ => setNode n (.map t es)
  | _ => pure ()

/-- Gives a node another tag. -/
def retag (n : Nat) (t : String) : MakeM Unit := do
  match ← node n with
  | .scalar _ x => setNode n (.scalar t x)
  | .seq _ xs => setNode n (.seq t xs)
  | .map _ es => setNode n (.map t es)

/-- Adds a cell and gives its number. -/
def newCell (c : Cell) : MakeM Nat :=
  modifyGet fun s => (s.cells.size, { s with cells := s.cells.push c })

/-- Replaces the cell with a number. -/
def setCell (i : Nat) (c : Cell) : MakeM Unit :=
  modify fun s => { s with cells := s.cells.setIfInBounds i c }

/-- The cell with a number. -/
def cell (i : Nat) : MakeM Cell := do
  pure ((← get).cells.getD i (.scalar .null))

/-- Records the cell a node was made into. -/
def record (n c : Nat) : MakeM Unit :=
  modify fun s => { s with made := s.made.setIfInBounds n (some c) }

/-- The empty collection of a collection tag. -/
def emptyOf (tag : String) : Option Cell :=
  if tag = stdTag "seq" || tag = stdTag "omap" || tag = stdTag "pairs" then some (.seq [])
  else if tag = stdTag "map" then some (.map [])
  else if tag = stdTag "set" then some (.set [])
  else none

/-- The cell of the shared NaN. -/
def nanCell : MakeM Nat := do
  match (← get).sharedNaN with
  | some c => pure c
  | none =>
    let c ← newCell (.scalar (.float (0.0 / 0.0)))
    modify fun s => { s with sharedNaN := some c }
    pure c

/-- The cell of a node: the cell it was made into, else a new one. A scalar
    is made at once; a collection is made empty and waits to be filled. -/
def make (n : Nat) : MakeM Nat := do
  if let some c := (← get).made.getD n none then return c
  let nd ← node n
  match emptyOf nd.tag with
  | some empty =>
    let c ← newCell empty
    record n c
    modify fun s => { s with waiting := s.waiting ++ [(n, c)] }
    pure c
  | none =>
    match nd with
    | .scalar tag text =>
      let c ← if tag = stdTag "float" && namesNaN text then nanCell
        else match scalarValue tag text with
          | .ok v => newCell (.scalar v)
          | .error e => throw e
      record n c
      pure c
    | _ => throw .malformed

/-- Takes the entries of the mappings that `<<` keys name into a mapping
    node, in front of its own, and makes keys tagged `=` string keys. The
    entries are looked at one by one as they stand, since taking in a
    mapping that holds this one changes this one too; each `<<` entry is
    dropped before its mappings are flattened in turn. -/
def flatten : Nat → Nat → MakeM Unit
  | 0, _ => throw .malformed
  | fuel + 1, n => do
    let special ← (← entriesOf n).anyM fun (k, _) => do
      let t := (← node k).tag
      pure (t = stdTag "merge" || t = stdTag "value")
    if !special then return
    let bound := ((← entriesOf n).length + 1) * ((← get).nodes.size + 1)
    let mut merge : List (Nat × Nat) := []
    let mut index := 0
    for _ in [0:bound] do
      let entries ← entriesOf n
      match entries[index]? with
      | none => break
      | some (k, v) =>
        let keyTag := (← node k).tag
        if keyTag = stdTag "merge" then
          setEntries n (entries.eraseIdx index)
          match ← node v with
          | .map _ _ =>
            flatten fuel v
            merge := merge ++ (← entriesOf v)
          | .seq _ subs =>
            let mut parts : List (List (Nat × Nat)) := []
            for s in subs do
              match ← node s with
              | .map _ _ =>
                flatten fuel s
                parts := (← entriesOf s) :: parts
              | _ => throw .malformed
            merge := merge ++ parts.flatten
          | .scalar _ _ => throw .malformed
        else
          if keyTag = stdTag "value" then retag k (stdTag "str")
          index := index + 1
    if !merge.isEmpty then setEntries n (merge ++ (← entriesOf n))

/-- Writes a value under a key cell: a key that is the same cell, or an equal
    value, keeps its place and takes the new value. -/
def insertKey (acc : List (Nat × Value × Nat)) (kc : Nat) (k : Value) (vc : Nat) :
    List (Nat × Value × Nat) :=
  if acc.any (fun e => e.1 == kc || Value.sameKey e.2.1 k) then
    acc.map fun e => if e.1 == kc || Value.sameKey e.2.1 k then (e.1, e.2.1, vc) else e
  else acc ++ [(kc, k, vc)]

/-- The entries of a mapping node after flattening, as key values and value
    cells. -/
def mappingOf (fuel n : Nat) : MakeM (List (Value × Nat)) := do
  if let .map _ _ ← node n then flatten fuel n
  match ← node n with
  | .map _ entries =>
    let mut acc : List (Nat × Value × Nat) := []
    for (k, v) in entries do
      let kc ← make k
      let key ← match ← cell kc with
        | .scalar x => pure x
        | _ => throw .malformed
      let vc ← make v
      acc := insertKey acc kc key vc
    pure (acc.map fun e => e.2)
  | _ => throw .malformed

/-- Fills the cell of a collection node. -/
def fill (fuel n c : Nat) : MakeM Unit := do
  let nd ← node n
  let tag := nd.tag
  if tag = stdTag "seq" then
    match nd with
    | .seq _ items => setCell c (.seq (← items.mapM make))
    | _ => throw .malformed
  else if tag = stdTag "omap" || tag = stdTag "pairs" then
    match nd with
    | .seq _ items =>
      let pairs ← items.mapM fun m => do
        match ← node m with
        | .map _ [(k, v)] =>
          let kc ← make k
          let vc ← make v
          newCell (.tuple [kc, vc])
        | _ => throw .malformed
      setCell c (.seq pairs)
    | _ => throw .malformed
  else if tag = stdTag "map" then setCell c (.map (← mappingOf fuel n))
  else setCell c (.set ((← mappingOf fuel n).map (·.1)))

/-- Fills the waiting collections, oldest first, until none waits; every
    node waits at most once, so `steps` above the number of nodes is enough. -/
def drain (fuel : Nat) : Nat → MakeM Unit
  | 0 => throw .malformed
  | steps + 1 => do
    match (← get).waiting with
    | [] => pure ()
    | (n, c) :: rest =>
      modify fun s => { s with waiting := rest }
      fill fuel n c
      drain fuel steps

end Make

/-- The graph of a document's values. -/
def Document.toGraph (d : Document) : Except Error Graph := do
  let start : Maker :=
    { nodes := d.nodes, made := Array.replicate d.nodes.size none, cells := #[], waiting := [],
      sharedNaN := none }
  let entryCount := d.nodes.foldl (fun acc nd => match nd with
    | .map _ es => acc + es.length
    | _ => acc) 0
  let fuel := entryCount + d.nodes.size + 16
  let (root, s) ← (do
      let r ← Make.make d.root
      Make.drain fuel (d.nodes.size + 1)
      pure r).run start
  pure ⟨s.cells, root⟩

end ChangeFilter.Yaml
