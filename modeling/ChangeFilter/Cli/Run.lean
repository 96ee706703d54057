import ChangeFilter.Cli.Arguments
import ChangeFilter.Run.Pipeline
import ChangeFilter.Config

/-! # A run from the command line

    The command line is parsed and checked, then the configuration file,
    the environment and the arguments are merged into settings (arguments
    not given leave the lower layers in force), and the filter is run with a
    log at the configured level. Paths of the pull request listing and the
    output file are made absolute against the directory of the invocation.

    The exit code is that of the run; a refused command line or
    configuration gives 1 with `Error: …` on standard error, a usage error
    ends the program with code 2, and `--version` and `--help` with code 0.
    A fault gives 1 with `Unexpected error: …`. Groups are written as
    workflow commands when `GITHUB_ACTIONS` is `true`. -/

namespace ChangeFilter.Cli

/-- Why a parsed command line is refused. -/
inductive ArgumentError where
  | configMissing (path : String)
  | configNotFile (path : String)
  | noWorkingDirectory (path : String)
  | depthNotPositive (n : Int)
  deriving Inhabited

/-- The message of a refused command line. -/
def ArgumentError.message : ArgumentError → String
  | .configMissing p => "Configuration file does not exist: " ++ p
  | .configNotFile p => "Configuration path is not a file: " ++ p
  | .noWorkingDirectory p => "Working directory does not exist: " ++ p
  | .depthNotPositive n => "--initial-fetch-depth must be positive, got " ++ toString n

/-- Checks the paths and the depth of a parsed command line. -/
def checkArguments (disk : Disk) (cwd : List String) (a : Arguments) : Except ArgumentError Unit := do
  match a.config with
  | some p =>
    if !p.isEmpty then
      if !disk.exists? cwd p then throw (.configMissing p)
      if !disk.isFile cwd p then throw (.configNotFile p)
  | none => pure ()
  match a.workingDirectory with
  | some p => if !p.isEmpty && !disk.isDir cwd p then throw (.noWorkingDirectory p)
  | none => pure ()
  match a.fetchDepth with
  | some n => if n < 1 then throw (.depthNotPositive n)
  | none => pure ()

/-- An optional text as a value, null when absent. -/
def optionalText : Option String → Value
  | some s => .str s
  | none => .null

/-- An optional path made absolute against a directory; empty stays empty. -/
def absoluteText (cwdText : String) : Option String → Value
  | some "" => .str ""
  | some p => .str (absolutePath cwdText p)
  | none => .null

/-- The configuration mapping of a command line: every setting, null when
    not given, and `logging` when `--debug` or a log file is given. -/
def configOf (a : Arguments) (cwdText : String) : Value :=
  let logging : List (Value × Value) :=
    (if a.debug then [(.str "level", .str "DEBUG")] else []) ++
    (match a.logFile with
     | some f => if f.isEmpty then [] else [(.str "file", .str f)]
     | none => [])
  .map ([(.str "filters", optionalText a.filters), (.str "base", optionalText a.base),
    (.str "ref", optionalText a.ref), (.str "before", optionalText a.before),
    (.str "default_branch", optionalText a.defaultBranch),
    (.str "initial_fetch_depth", match a.fetchDepth with
      | some n => .int n
      | none => .null),
    (.str "working_directory", optionalText a.workingDirectory),
    (.str "pr_files", absoluteText cwdText a.prFiles),
    (.str "predicate_quantifier", optionalText a.quantifier),
    (.str "list_files", optionalText a.listFiles),
    (.str "output_file", absoluteText cwdText a.outputFile)] ++
    (if logging.isEmpty then [] else [(.str "logging", .map logging)]))

/-- The settings of a command line: configuration file, environment and
    arguments merged and checked. -/
def loadSettings (a : Arguments) (env : List (String × String)) (disk : Disk) (cwd : List String) :
    Except Failure Settings := do
  let c ← Config.create (a.config.getD "") env disk cwd
  let c ← (c.loadMapping (configOf a (disk.pathOf cwd)) .arguments).mapError Failure.fault
  c.settings

/-- How a command-line run ends. -/
inductive Exit where
  /-- The program returns an exit code. -/
  | code (n : Nat)
  /-- Parsing ended the program with an exit code. -/
  | stopped (n : Nat)
  deriving Inhabited, DecidableEq

/-- What a command-line run leaves. -/
structure Outcome where
  exit : Exit
  stdout : String
  stderr : String
  workspace : Workspace
  deriving Inhabited

/-- The lines of a log as they appear on standard error. -/
def logText (log : Log) : String :=
  String.join (log.lines.toList.map (· ++ "\n"))

/-- Runs the program on a command line in a workspace whose log is unused. -/
def main (argv : List String) (env : List (String × String)) (w : Workspace) : Outcome :=
  let ended (exit : Exit) (out err : String) : Outcome := ⟨exit, out, err, w⟩
  match parse argv with
  | .error (.shown text) => ended (.stopped 0) text ""
  | .error (.usage msg) => ended (.stopped 2) "" (usageLine ++ programName ++ ": error: " ++ msg ++ "\n")
  | .ok a =>
    match checkArguments w.disk w.cwd a with
    | .error e => ended (.code 1) "" ("Error: " ++ e.message ++ "\n")
    | .ok () =>
      match loadSettings a env w.disk w.cwd with
      | .error (.fault f) => ended (.code 1) "" ("Unexpected error: " ++ f.message ++ "\n")
      | .error e => ended (.code 1) "" ("Error: " ++ e.message ++ "\n")
      | .ok s =>
        let workflow := env.lookup "GITHUB_ACTIONS" == some "true"
        let log := Log.create s.logLevel workflow
        let log := if s.logFile.isEmpty then log
          else log.write .debug ("Logging to file: " ++ s.logFile) []
        let (result, w) := (runFilter s).run { w with log } |>.run
        match result with
        | .ok code => ⟨.code code, w.stdout, logText w.log, w⟩
        | .error e =>
          ⟨.code 1, w.stdout, logText w.log ++ "Unexpected error: " ++ e.message ++ "\n", w⟩

end ChangeFilter.Cli
