import ChangeFilter.Log
import ChangeFilter.ErrorCode
import ChangeFilter.Text.Blank

/-! # Running git commands

    A git session answers commands from a script: each argument list has its
    replies in order, used one per run of that list, and the last one repeats
    once they are used up. A command without replies exits with code 0 and no
    output. A reply may also say that the git program is missing or that the
    command timed out.

    `Session.run` runs one command: it writes `Running git` with the command
    line at `DEBUG`, records the arguments, and turns a missing program, a
    timeout, or (when checking) a non-zero exit code into a `GitError`. -/

namespace ChangeFilter.Git

/-- How a git command ended. -/
inductive Reply where
  /-- The command ran and exited with a code and output. -/
  | exited (code : Int) (stdout stderr : String)
  /-- The git program could not be started. -/
  | missing
  /-- The command did not finish in time. -/
  | timedOut
  deriving Inhabited

/-- Replies to commands, by argument list, in order of use. -/
structure Script where
  entries : List (List String × List Reply)
  deriving Inhabited

namespace Script

/-- No replies at all. -/
def empty : Script := ⟨[]⟩

/-- Adds a reply to the end of an argument list's replies. -/
def add (s : Script) (args : List String) (r : Reply) : Script :=
  if s.entries.any (·.1 == args) then
    ⟨s.entries.map fun e => if e.1 == args then (e.1, e.2 ++ [r]) else e⟩
  else ⟨s.entries ++ [(args, [r])]⟩

/-- The reply to the `uses`-th run of an argument list (from zero): its reply
    at that place, else its last reply, else a silent success. -/
def replyTo (s : Script) (args : List String) (uses : Nat) : Reply :=
  match s.entries.lookup args with
  | some rs@(r :: _) => rs.getD uses (rs.getLastD r)
  | _ => .exited 0 "" ""

/-- The number of replies in the script. -/
def size (s : Script) : Nat :=
  s.entries.foldr (fun e total => e.2.length + total) 0

/-- Enough deepening rounds for a search against the script: a reply repeats
    once its list is used up, so the commit count stops growing within this
    many rounds. -/
def rounds (s : Script) : Nat :=
  s.size + 1

end Script

/-- A failing git command, or a ref that cannot be resolved. -/
structure GitError where
  message : String
  /-- The full command line, `git` included; empty when no command failed. -/
  command : List String
  stderr : String
  code : ErrorCode
  deriving Inhabited

/-- A ref that neither fetching as a branch nor as a tag made available. -/
def GitError.unresolved (name : String) : GitError :=
  ⟨"Could not determine what is " ++ name ++
    " - fetch works but it's not a branch, tag or commit SHA", [], "", .notFound⟩

/-- A session: the script, the commands run so far and the log. -/
structure Session where
  script : Script
  commands : Array (List String)
  log : Log
  deriving Inhabited

/-- Computations that run git commands. -/
abbrev GitM := ExceptT GitError (StateM Session)

instance : MonadLog GitM where
  updateLog f := modify fun s => { s with log := f s.log }

/-- What a command that ran gives back. -/
structure Completed where
  code : Int
  stdout : String
  stderr : String
  deriving Inhabited

/-- Runs `git` with arguments. With `check`, a non-zero exit code fails with
    the trimmed error output. -/
def run (args : List String) (check : Bool) : GitM Completed := do
  let command := "git" :: args
  let line := " ".intercalate command
  logDebug "Running git" [("command", .str line)]
  let s ← get
  let uses := s.commands.toList.count args
  set { s with commands := s.commands.push args }
  match s.script.replyTo args uses with
  | .missing => throw ⟨"git executable not found", command, "", .dependencyError⟩
  | .timedOut => throw ⟨"Command '" ++ line ++ "' timed out", command, "", .internalError⟩
  | .exited code out err =>
    if check && code != 0 then
      let stderr := Text.trimBlank err
      throw ⟨"Command '" ++ line ++ "' failed with exit code " ++ toString code ++ ": " ++ stderr,
        command, stderr, .dependencyError⟩
    else pure ⟨code, out, err⟩

end ChangeFilter.Git
