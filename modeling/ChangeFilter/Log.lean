import ChangeFilter.Value.Text
import ChangeFilter.Text.Upper
import ChangeFilter.Fault

/-! # A structured log

    A log keeps the lines written so far. Each line is `LEVEL: message`,
    followed by ` | k=v k2=v2` when a context is in force: the key-value pairs
    of the contexts entered so far, outermost first, and then those of the
    call, where a key already present keeps its place and takes the newer
    value. Values are written in their display form.

    A line is written only when its level is at least the log's threshold.
    The threshold is a rank: the rank of a level, or any integer a caller
    sets. A threshold of zero is unset, and the default threshold `WARNING`
    applies; no rank of zero or below is ever enabled.
    A group writes its title at `INFO` when it opens; in a workflow log it
    writes `::group::title` instead, and `::endgroup::` when it closes.

    Main statements: `Log.write_disabled` (a line below the threshold changes
    nothing) and `Context.put_keys` (writing a key keeps the order of the
    keys, adding a new one at the end). -/

namespace ChangeFilter

/-- How severe a log line is. -/
inductive Level where
  | debug
  | info
  | warning
  | error
  | critical
  deriving DecidableEq, Repr, Inhabited

namespace Level

/-- The numeric rank of a level; higher is more severe. -/
def rank : Level → Nat
  | .debug => 10
  | .info => 20
  | .warning => 30
  | .error => 40
  | .critical => 50

/-- The name of a level, in upper case. -/
def name : Level → String
  | .debug => "DEBUG"
  | .info => "INFO"
  | .warning => "WARNING"
  | .error => "ERROR"
  | .critical => "CRITICAL"

/-- Every level, from the least severe. -/
def all : List Level := [.debug, .info, .warning, .error, .critical]

/-- The level with a given upper-case name. -/
def ofName? (s : String) : Option Level :=
  all.find? (·.name == s)

/-- The level with a given rank. -/
def ofRank? (n : Int) : Option Level :=
  all.find? (fun l => (l.rank : Int) == n)

/-- The level a word names in any case: its upper case is the level's name. -/
def parse? (s : String) : Option Level :=
  ofName? (Text.upper s)

theorem ofName?_name (l : Level) : ofName? l.name = some l := by
  cases l <;> rfl

theorem ofRank?_rank (l : Level) : ofRank? l.rank = some l := by
  cases l <;> rfl

end Level

/-- Key-value pairs that follow a message, in insertion order. -/
abbrev Context := List (String × Value)

namespace Context

/-- Writes `v` under `k`: a present key keeps its place and takes `v`, a new
    key goes at the end. -/
def put (ctx : Context) (k : String) (v : Value) : Context :=
  if ctx.any (·.1 == k) then ctx.map fun e => if e.1 == k then (k, v) else e
  else ctx ++ [(k, v)]

/-- Writes every pair of `extra` into `base`, in order. -/
def merge (base extra : Context) : Context :=
  extra.foldl (fun acc e => acc.put e.1 e.2) base

/-- The pairs as `k=v` words separated by blanks. -/
def render (ctx : Context) : String :=
  " ".intercalate (ctx.map fun e => e.1 ++ "=" ++ e.2.display)

/-- A message with its context after ` | `, or alone when there is none. -/
def attach (msg : String) (ctx : Context) : String :=
  if ctx.isEmpty then msg else msg ++ " | " ++ ctx.render

theorem put_keys (ctx : Context) (k : String) (v : Value) :
    (ctx.put k v).map (·.1) = if ctx.any (·.1 == k) then ctx.map (·.1) else ctx.map (·.1) ++ [k] := by
  unfold put
  split
  · simp only [List.map_map]
    apply List.map_congr_left
    intro e _
    by_cases he : e.1 = k <;> simp [he]
  · simp

end Context

/-- What a log has entered and not yet left. -/
inductive Frame where
  /-- Pairs added to every line until the frame is left. -/
  | context (pairs : Context)
  /-- A group of lines under a title. -/
  | group (title : String)
  deriving Inhabited

/-- A log: its threshold rank, whether groups are written as workflow
    commands, the frames entered (innermost first) and the lines written. -/
structure Log where
  threshold : Int
  workflow : Bool
  frames : List Frame
  lines : Array String
  deriving Inhabited

namespace Log

/-- An empty log with a threshold level. -/
def create (threshold : Level) (workflow : Bool) : Log :=
  ⟨threshold.rank, workflow, [], #[]⟩

/-- The threshold in force: the default `WARNING` when none is set. -/
def effective (log : Log) : Int :=
  if log.threshold = 0 then Level.warning.rank else log.threshold

/-- Whether lines of a rank are written: a positive rank at least the
    threshold in force. -/
def enabledRank (log : Log) (n : Int) : Bool :=
  0 < n && log.effective ≤ n

/-- Whether lines of a level are written. -/
def enabled (log : Log) (level : Level) : Bool :=
  log.enabledRank level.rank

/-- The pairs of the contexts in force, outermost first. -/
def context (log : Log) : Context :=
  log.frames.reverse.foldl (fun acc f => match f with
    | .context c => acc.merge c
    | .group _ => acc) []

/-- Appends a line as it is. -/
def push (log : Log) (line : String) : Log :=
  { log with lines := log.lines.push line }

/-- Writes a message at a level, with the contexts in force and the call's pairs. -/
def write (log : Log) (level : Level) (msg : String) (extra : Context) : Log :=
  if log.enabled level then log.push (level.name ++ ": " ++ Context.attach msg (log.context.merge extra))
  else log

/-- Writes a failure at `ERROR`: the call's pairs are followed by the
    failure's kind and text. -/
def failure (log : Log) (msg kind text : String) (extra : Context) : Log :=
  let ctx := ((log.context.merge extra).put "exception_type" (.str kind)).put "exception_message" (.str text)
  if log.enabled .error then log.push ("ERROR: " ++ Context.attach msg ctx) else log

/-- Enters a context. -/
def enter (log : Log) (pairs : Context) : Log :=
  { log with frames := .context pairs :: log.frames }

/-- Opens a group: its title is written at `INFO`. -/
def openGroup (log : Log) (title : String) : Log :=
  let log := log.write .info (if log.workflow then "::group::" ++ title else title) []
  { log with frames := .group title :: log.frames }

/-- Leaves the innermost frame; a group closes with `::endgroup::` in a
    workflow log. -/
def leave (log : Log) : Log :=
  match log.frames with
  | [] => log
  | .context _ :: rest => { log with frames := rest }
  | .group _ :: rest =>
    let log := { log with frames := rest }
    if log.workflow then log.write .info "::endgroup::" [] else log

/-- Sets the threshold to a level. -/
def setLevel (log : Log) (level : Level) : Log :=
  { log with threshold := level.rank }

/-- The fault of a level name that names no level: the missing key is the
    name in upper case. -/
def unknownLevel (name : String) : Fault :=
  .keyError (Value.str (Text.upper name)).literal

/-- Sets the threshold from a value: a level name in any case, or an
    integer rank (a boolean counts as 0 or 1). -/
def setLevelOf (log : Log) : Value → Except Fault Log
  | .str s =>
    match Level.parse? s with
    | some l => .ok (log.setLevel l)
    | none => .error (unknownLevel s)
  | .int n => .ok { log with threshold := n }
  | .bool b => .ok { log with threshold := if b then 1 else 0 }
  | v => .error (.typeError ("Level not an integer or a valid string: " ++ v.literal))

/-- Whether lines at a level given as a value are written: a level name in
    any case, or a number compared with the threshold in force. -/
def enabledOf (log : Log) : Value → Except Fault Bool
  | .str s =>
    match Level.parse? s with
    | some l => .ok (log.enabled l)
    | none => .error (unknownLevel s)
  | .int n => .ok (log.enabledRank n)
  | .bool b => .ok (log.enabledRank (if b then 1 else 0))
  | .float x => .ok (0 < x && Float.ofInt log.effective ≤ x)
  | .seq _ => .error (Fault.unhashable "list")
  | .map _ => .error (Fault.unhashable "dict")
  | v => .error (.typeError ("'>=' not supported between instances of 'int' and '" ++ v.typeName ++ "'"))

/-- The level of the threshold; a threshold that is no level's rank is
    refused. -/
def level (log : Log) : Except Fault Level :=
  match Level.ofRank? log.threshold with
  | some l => .ok l
  | none => .error (.valueError (toString log.threshold ++ " is not a valid LogLevel"))

theorem write_disabled (log : Log) (level : Level) (msg : String) (extra : Context)
    (h : log.enabled level = false) : log.write level msg extra = log := by
  simp [write, h]

end Log

/-- Monads that keep a log. -/
class MonadLog (m : Type → Type) where
  /-- Changes the log. -/
  updateLog : (Log → Log) → m Unit

section Logging

variable {m : Type → Type} [Monad m] [MonadLog m]

/-- Writes a message at a level. -/
def logAt (level : Level) (msg : String) (extra : Context) : m Unit :=
  MonadLog.updateLog (·.write level msg extra)

/-- Writes a message at `DEBUG`. -/
def logDebug (msg : String) (extra : Context) : m Unit := logAt .debug msg extra

/-- Writes a message at `INFO`. -/
def logInfo (msg : String) (extra : Context) : m Unit := logAt .info msg extra

/-- Writes a message at `WARNING`. -/
def logWarning (msg : String) (extra : Context) : m Unit := logAt .warning msg extra

/-- Writes a message at `ERROR`. -/
def logError (msg : String) (extra : Context) : m Unit := logAt .error msg extra

/-- Runs `body` inside a group; the group closes also when `body` fails. -/
def grouped {ε α : Type} [MonadExcept ε m] (title : String) (body : m α) : m α := do
  MonadLog.updateLog (·.openGroup title)
  tryCatch (do
      let r ← body
      MonadLog.updateLog Log.leave
      pure r)
    (fun e => do
      MonadLog.updateLog Log.leave
      throw e)

end Logging

end ChangeFilter
