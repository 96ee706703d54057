import ChangeFilter.Run.Workspace
import ChangeFilter.Config
import ChangeFilter.Json.Read

/-! # Pull request file listings

    A hosted pull request lists its files as rows with a `filename`, a
    `status` and, for renames, a `previous_filename`. Rows become changed
    files the way a diff without rename detection reports them:

    * `renamed` is the new path as added and the previous path as deleted;
    * `removed` is deleted and `changed` is modified;
    * `unchanged` rows are dropped;
    * any other status must name a status of a diff.

    A listing file holds a JSON list of rows, or an object whose `files` is
    that list. Text that is no JSON makes the listing unreadable; an integer
    with too many digits is refused by the reader with a fault of its own.

    A previous name is taken as the row holds it, and need not be text: a
    `Record` keeps it as a value. Changed files take its text form. -/

namespace ChangeFilter.PullRequest

/-- The statuses that pull request rows spell differently. -/
def aliasOf? : Value → Option Status
  | .str "removed" => some .deleted
  | .str "changed" => some .modified
  | _ => none

/-- The type name of the first part of a value that cannot be a key. -/
def unhashablePart : Value → Option String
  | .seq _ => some "list"
  | .map _ => some "dict"
  | .set _ => some "set"
  | .tuple items => go items
  | _ => none
where
  /-- The first unhashable part among items. -/
  go : List Value → Option String
    | [] => none
    | v :: rest =>
      match unhashablePart v with
      | some n => some n
      | none => go rest

/-- One record of a listing: a path as the row gives it, and a status. -/
structure Record where
  path : Value
  status : Status
  deriving Inhabited

/-- The changed file of a record, its path as text. -/
def Record.toFile (r : Record) : ChangedFile := ⟨r.path.display, r.status⟩

/-- The records of one row. -/
def rowRecords (row : Value) : RunM (List Record) := do
  let entries ← match row with
    | .map es => pure es
    | other => throw (.fault (Fault.noAttribute other.typeName "get"))
  let status := (Mapping.valueAt entries (.str "status")).getD .null
  let filename ← match Mapping.valueAt entries (.str "filename") with
    | some (.str f) => if f.isEmpty then throw (.listing (.noFilename row)) else pure f
    | _ => throw (.listing (.noFilename row))
  logDebug ("[" ++ status.display ++ "] " ++ filename) []
  match status with
  | .str "renamed" =>
    let previous := (Mapping.valueAt entries (.str "previous_filename")).getD .null
    if previous.truthy then
      pure [⟨.str filename, .added⟩, ⟨previous, .deleted⟩]
    else
      logWarning "Renamed file has no previous filename" [("filename", .str filename)]
      pure [⟨.str filename, .added⟩]
  | .str "unchanged" => pure []
  | _ =>
    if let some n := unhashablePart status then
      throw (.fault (Fault.unhashable n))
    match aliasOf? status with
    | some s => pure [⟨.str filename, s⟩]
    | none =>
      match status with
      | .str name =>
        match Status.ofName? name with
        | some s => pure [⟨.str filename, s⟩]
        | none => throw (.listing (.unknownStatus status filename))
      | _ => throw (.listing (.unknownStatus status filename))

/-- The records of rows, in row order. -/
def recordsOfRows : List Value → RunM (List Record)
  | [] => pure []
  | row :: rest => do
    let records ← rowRecords row
    let more ← recordsOfRows rest
    pure (records ++ more)

/-- The changed files of rows, in row order. -/
def filesOfRows (rows : List Value) : RunM (List ChangedFile) := do
  return (← recordsOfRows rows).map Record.toFile

/-- Reads a listing file into records. -/
def readRecords (path : String) : RunM (List Record) := do
  let s ← get
  if !s.disk.isFile s.cwd path then throw (.listing (.missing path))
  let text ← match s.disk.readText s.cwd path with
    | .ok t => pure t
    | .error _ => throw (.listing (.unreadable path))
  let data ← match Json.read text with
    | .ok v => pure v
    | .error (.malformed _) => throw (.listing (.unreadable path))
    -- the reader's refusal of a long integer is no decoding error, so it escapes
    | .error (.tooManyDigits d) => throw (.fault (.valueError (Text.longIntMessage d)))
  let data := match data with
    | .map es => (Mapping.valueAt es (.str "files")).getD .null
    | v => v
  match data with
  | .seq rows =>
    if rows.all (fun r => r matches .map _) then recordsOfRows rows
    else throw (.listing (.notRows path))
  | _ => throw (.listing (.notRows path))

/-- Reads a listing file into changed files. -/
def load (path : String) : RunM (List ChangedFile) := do
  return (← readRecords path).map Record.toFile

end ChangeFilter.PullRequest
