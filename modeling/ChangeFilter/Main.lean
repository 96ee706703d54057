import ChangeFilter.Cli.Run

/-! # The program

    Runs the filter on the process's arguments and environment.

    The run itself is pure and sees the file system as a `Disk` mounted at
    the file system's root. Before it starts, every path that the
    arguments, the environment and the configuration may name is looked up,
    from the current directory and from the working directory, and the file
    or directory found there is copied into the tree (links are read
    through). Afterwards the files that the run changed are written back,
    its standard output and error are printed, and its exit code returned.

    Git is not started from here: a run that asks git for changes fails as
    one does when git is missing. Inline filters with pull request files
    work in full. -/

namespace ChangeFilter.Cli

/-- The environment variables that configuration reads. -/
def variableNames : List String :=
  "GITHUB_ACTIONS" :: defaultConfig.flatMap fun (k, v) =>
    match v with
    | .map es => es.map fun (k2, _) => envPrefix ++ Text.upper (k.display ++ "__" ++ k2.display)
    | _ => [envPrefix ++ Text.upper k.display]

/-- The names of a path from the file system's root, with `.` and `..`
    applied. -/
def placeOf (cwd : List String) (path : String) : List String :=
  ((if "/".isPrefixOf path then [] else cwd) ++ path.splitOn "/").foldl
    (fun acc n => if n = "" || n = "." then acc else if n = ".." then acc.dropLast else acc ++ [n]) []

/-- The paths a run may touch: each text, and each text inside each other
    text taken as a working directory. -/
def candidatePaths (texts : List String) : List String :=
  texts ++ texts.flatMap fun wd => texts.map fun p => wd ++ "/" ++ p

/-- The paths that settings name. -/
def settingPaths (s : Settings) : List String :=
  [s.filters, s.prFiles, s.outputFile, s.workingDirectory]

/-- A token in the form of a UUID's text, from a number below 2^128. -/
def uuidText (n : Nat) : String :=
  let hex := Nat.toDigits 16 (n % Nat.pow 2 128)
  let hex := List.replicate (32 - hex.length) '0' ++ hex
  let part (i j : Nat) : String := String.ofList ((hex.drop i).take (j - i))
  part 0 8 ++ "-" ++ part 8 12 ++ "-" ++ part 12 16 ++ "-" ++ part 16 20 ++ "-" ++ part 20 32

/-- Copies what the file system holds at a path into the tree: a file's
    text, or a directory. -/
def copyIn (d : Disk) (cwd : List String) (path : String) : IO Disk := do
  let names := placeOf cwd path
  if names.isEmpty || (d.entries.lookup names).isSome then return d
  try
    let text ← IO.FS.readFile (d.pathOf names)
    return d.put names (.file text)
  catch e =>
    match e with
    | .inappropriateType .. => return d.put names .dir
    | _ => return d

/-- Copies every candidate path into the tree. -/
def copyAll (d : Disk) (cwd : List String) (texts : List String) : IO Disk :=
  (candidatePaths texts).foldlM (fun d p => copyIn d cwd p) d

/-- Writes back the files of the tree that the run changed. -/
def writeBack (before after : Disk) : IO Unit := do
  for (names, e) in after.entries do
    match e with
    | .file text =>
      if before.entries.lookup names != some (.file text) then
        IO.FS.writeFile (after.pathOf names) text
    | _ => pure ()

/-- Runs the program on a command line and gives its exit code. -/
def runProgram (args : List String) : IO UInt32 := do
  let env ← variableNames.filterMapM fun n => do
    pure ((← IO.getEnv n).map fun v => (n, v))
  let cwd := placeOf [] (← IO.currentDir).toString
  let disk := if cwd.isEmpty then Disk.empty "" else (Disk.empty "").put cwd .dir
  let texts := args ++ env.map (·.2)
  let disk ← copyAll disk cwd texts
  let named := match parse args with
    | .ok a =>
      match loadSettings a env disk cwd with
      | .ok s => settingPaths s
      | .error _ => []
    | .error _ => []
  let disk ← copyAll disk cwd (texts ++ named)
  IO.setRandSeed (← IO.monoNanosNow)
  let base ← IO.rand 0 (Nat.pow 2 128)
  let w := { Workspace.create disk Repository.unavailable .info false
      (fun k => uuidText (base + k * 0x9E3779B97F4A7C15)) with cwd }
  let o := main args env w
  IO.print o.stdout
  IO.eprint o.stderr
  writeBack disk o.workspace.disk
  match o.exit with
  | .code n | .stopped n => pure n.toUInt32

end ChangeFilter.Cli

/-- The program's entry point. -/
def main (args : List String) : IO UInt32 :=
  ChangeFilter.Cli.runProgram args
