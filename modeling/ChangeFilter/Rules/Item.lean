import ChangeFilter.Rules.FormatError
import ChangeFilter.Value.Graph
import ChangeFilter.Text.Blank
import ChangeFilter.Text.Lower

/-! # Rule items

    A filter's rules are a tree: a pattern text, a mapping from status specs to
    patterns, or a sequence of such rules nested to any depth. `decode` reads a
    cell of a document graph into an `Item`, refusing the first cell of a wrong
    shape in document order, and shows a refused part as its tree read from
    that part. A sequence met again inside itself is a fault, since its rules
    would never end. `Item.leaves` lists the patterns with their status sets,
    depth first, left to right.

    A status spec is text such as `added | Modified`: `|` separates tokens,
    each trimmed and lower-cased; empty tokens are dropped, and a spec without
    tokens allows every status. -/

namespace ChangeFilter.Rules

/-- A decoded rule. -/
inductive Item where
  /-- A pattern for files of any status. -/
  | pattern (p : String)
  /-- Patterns for files whose status is in a set (any status when empty). -/
  | statusPatterns (statuses : List Status) (patterns : List String)
  /-- Rules in order. -/
  | group (items : List Item)
  deriving Repr, Inhabited

/-- Accepts a pattern: non-empty text without NUL. -/
def checkPattern : Value → Except FormatError String
  | .str s =>
    if s.isEmpty then .error .emptyPattern
    else if s.toList.contains '\x00' then .error (.nulInPattern s)
    else .ok s
  | v => .error (.patternNotText v)

/-- Reads one trimmed, lower-cased status token. -/
def statusOfToken (t : String) : Except FormatError Status :=
  match Status.ofName? t with
  | some s => .ok s
  | none => .error (.unknownStatus t)

/-- Reads a status spec into a status set. -/
def parseStatusSpec (spec : String) : Except FormatError (List Status) := do
  let tokens := (spec.splitOn "|").map fun t => Text.lower (Text.trimBlank t)
  let statuses ← (tokens.filter (!·.isEmpty)).mapM statusOfToken
  pure (Status.setOf statuses)

/-- Reads a pattern cell. -/
def patternCell (doc : Graph) (n : Nat) : Except FormatError String :=
  match doc.cell n with
  | .scalar (.str s) => checkPattern (.str s)
  | _ => .error (.patternNotText (doc.view n))

/-- Reads one entry of a status mapping: its key, and the cell of its value. -/
def decodeEntry (doc : Graph) (key : Value) (n : Nat) : Except FormatError Item :=
  match key, doc.cell n with
  | .str spec, .scalar (.str p) => do
    let statuses ← parseStatusSpec spec
    let p ← checkPattern (.str p)
    pure (.statusPatterns statuses [p])
  | .str spec, .seq items => do
    let statuses ← parseStatusSpec spec
    let ps ← items.mapM (patternCell doc)
    pure (.statusPatterns statuses ps)
  | k, _ => .error (.badStatusEntry k (doc.view n))

/-- Reads cell `n` of a document as a rule; `fresh` holds the sequences that
    are not open around it. -/
def decodeCell (doc : Graph) (fresh : List Nat) (n : Nat) : Except LoadError Item :=
  match doc.cell n with
  | .scalar (.str s) => (Item.pattern <$> checkPattern (.str s)).mapError .format
  | .seq items =>
    if _h : fresh.contains n then
      Item.group <$> items.mapM fun m => decodeCell doc (fresh.erase n) m
    else .error (.fault Fault.endless)
  | .map entries =>
    (Item.group <$> entries.mapM fun (k, m) => decodeEntry doc k m).mapError .format
  | _ => .error (.format (.unexpectedElement (doc.view n)))
termination_by fresh.length
decreasing_by
  have hm : n ∈ fresh := List.contains_iff_mem.mp _h
  have hl := List.length_erase_of_mem hm
  have hp := List.length_pos_of_mem hm
  omega

/-- Reads cell `n` of a document as a rule. -/
def decode (doc : Graph) (n : Nat) : Except LoadError Item :=
  decodeCell doc (List.range doc.cells.size) n

/-- The patterns of a rule with their status sets, depth first. -/
def Item.leaves : Item → List (List Status × String)
  | .pattern p => [([], p)]
  | .statusPatterns statuses patterns => patterns.map (statuses, ·)
  | .group items => leavesAll items
where
  /-- The leaves of each item, in order. -/
  leavesAll : List Item → List (List Status × String)
    | [] => []
    | i :: rest => i.leaves ++ leavesAll rest

end ChangeFilter.Rules
