import ChangeFilter.Failure
import ChangeFilter.Run.Pipeline
import ChangeFilter.Git.Output
import ChangeFilter.Rules.Item

/-! # Checks of single values

    The tool's small readers of one setting or token, taken at any data value
    rather than at text alone. On text each one is the reader of its own
    module; on a value of another type each fails as the operation it applies
    fails there:

    * a status spec is split, so a value that is not text lacks `split`;
    * a ref is tested for being empty first, so every value that counts as
      false has no short name, and any other value that is not text lacks
      `startswith`;
    * a commit SHA is matched against a pattern, which takes text only;
    * a diff letter is looked up as a key, so a sequence or mapping cannot be
      one, and every other value is simply no letter;
    * a filters setting is searched for a line end or a colon, which is a
      membership test: a sequence tests its items, a mapping its keys, and a
      scalar holds no members;
    * a status token is compared with the names of the statuses, so a value
      that is not text names none. -/

namespace ChangeFilter.Checks

/-- The statuses of a status spec. -/
def statusSpec : Value → Except Failure (List Status)
  | .str spec => (Rules.parseStatusSpec spec).mapError .format
  | v => .error (.fault (Fault.noAttribute v.typeName "split"))

/-- The short name of a ref; none for a value that counts as false. -/
def shortName (v : Value) : Except Fault (Option String) :=
  if !v.truthy then .ok none
  else match v with
    | .str r => .ok (Git.shortName (some r))
    | v => .error (Fault.noAttribute v.typeName "startswith")

/-- Whether a value is the text of a full commit SHA. -/
def isSha : Value → Except Fault Bool
  | .str s => .ok (Git.isSha s)
  | v => .error (Fault.notText v.typeName)

/-- The status of a diff letter; the key fault carries the letter's literal
    form. -/
def statusOfLetter (v : Value) : Except Fault Status :=
  if !v.hashable then .error (Fault.unhashable v.typeName)
  else match v with
    | .str s =>
      match Status.ofLetter? s with
      | some st => .ok st
      | none => .error (.keyError v.literal)
    | v => .error (.keyError v.literal)

/-- Whether a collection holds the text `t` as a member: an item of a
    sequence, or a key of a mapping. -/
def holdsText (t : String) : Value → Except Fault Bool
  | .seq items | .set items | .tuple items => .ok (items.any fun i => Value.sameKey i (.str t))
  | .map entries => .ok (entries.any fun e => Value.sameKey e.1 (.str t))
  | v => .error (Fault.notIterable v.typeName)

/-- Whether a filters setting names a file: it holds neither a line end nor a
    colon. -/
def isPathInput : Value → Except Fault Bool
  | .str s => .ok (ChangeFilter.isPathInput s)
  | v => do
    if ← holdsText "\n" v then return false
    return !(← holdsText ":" v)

/-- The status a token names exactly. -/
def changeStatus : Value → Except Rules.FormatError Status
  | .str t => Rules.statusOfToken t
  | v => .error (.unknownStatus v.display)

end ChangeFilter.Checks
