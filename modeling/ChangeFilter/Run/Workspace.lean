import ChangeFilter.Failure
import ChangeFilter.Disk

/-! # What a run works in

    A run sees a directory tree with a current directory, a repository, and
    a log; it prints to standard output and may append to files. The
    repository is asked for change sets through `Request`s, and every request
    is recorded in order.

    A `Repository` answers from what is known of it: the checked-out ref,
    and the one change list (or failure) that every listing gives. -/

namespace ChangeFilter

/-- A request of change detection to the repository. -/
inductive Request where
  /-- The checked-out branch, tag or commit. -/
  | currentRef
  /-- Changes of the working tree and index. -/
  | onHead
  /-- Changes of the most recent commit. -/
  | lastCommit
  /-- Changes between two refs, compared directly. -/
  | between (base head : String)
  /-- Changes on `head` since its merge-base with `base`. -/
  | sinceMergeBase (base head : String) (depth : Nat)
  /-- Every tracked file, as added. -/
  | allAdded
  deriving Inhabited, DecidableEq

/-- A repository known by its checked-out ref and its answer to listings. -/
structure Repository where
  currentRef : Except Git.GitError String
  listing : Except Git.GitError (List ChangedFile)
  deriving Inhabited

/-- A repository that fails every request because git cannot be started. -/
def Repository.unavailable : Repository :=
  let e : Git.GitError := ⟨"git executable not found", [], "", .dependencyError⟩
  ⟨.error e, .error e⟩

/-- What a run works in. -/
structure Workspace where
  disk : Disk
  /-- The current directory, as names from the root of the tree. -/
  cwd : List String
  repository : Repository
  log : Log
  stdout : String
  requests : Array Request
  /-- The fresh token of each heredoc delimiter, by number. -/
  token : Nat → String
  /-- How many tokens have been used. -/
  issued : Nat
  deriving Inhabited

/-- Computations of a run. -/
abbrev RunM := ExceptT Failure (StateM Workspace)

instance : MonadLog RunM where
  updateLog f := modify fun s => { s with log := f s.log }

/-- A workspace over a tree, with an empty log at a level. -/
def Workspace.create (disk : Disk) (repository : Repository) (level : Level) (workflow : Bool)
    (token : Nat → String) : Workspace :=
  ⟨disk, [], repository, Log.create level workflow, "", #[], token, 0⟩

/-- Asks the repository for a change list, recording the request. -/
def askChanges (r : Request) : RunM (List ChangedFile) := do
  modify fun s => { s with requests := s.requests.push r }
  match (← get).repository.listing with
  | .ok files => pure files
  | .error e => throw (.git e)

/-- Asks the repository for its checked-out ref, recording the request. -/
def askCurrentRef : RunM String := do
  modify fun s => { s with requests := s.requests.push .currentRef }
  match (← get).repository.currentRef with
  | .ok r => pure r
  | .error e => throw (.git e)

/-- Prints a line to standard output. -/
def printLine (text : String) : RunM Unit :=
  modify fun s => { s with stdout := s.stdout ++ text ++ "\n" }

end ChangeFilter
