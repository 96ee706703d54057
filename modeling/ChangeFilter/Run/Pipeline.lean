import ChangeFilter.Run.Detect
import ChangeFilter.Rules.Load
import ChangeFilter.Output.Export
import ChangeFilter.Json.Write

/-! # A whole run

    A run loads the filters, detects the change set, matches it and exports
    the outputs:

    * the filters setting is a file path when it holds neither a line break
      nor `:`, else inline YAML; a path must name a regular file, not a link;
    * the outputs are appended to the output file, or printed as indented
      JSON when there is none;
    * the run happens in the working directory when one is set, and the
      current directory is restored afterwards.

    The exit code is 0 for success and 1 for a refusal, a git failure or a
    file error, which is logged; a fault is passed on. -/

namespace ChangeFilter

/-- Whether the filters setting names a file rather than holding YAML. -/
def isPathInput (text : String) : Bool :=
  !(text.any fun c => c = '\n' || c = ':')

/-- The text of a filters file. -/
def readFiltersFile (path : String) : RunM String := do
  let s ← get
  if !s.disk.exists? s.cwd path then throw (.config (.filtersMissing path))
  if s.disk.isLink s.cwd path || !s.disk.isFile s.cwd path then throw (.config (.filtersNotFile path))
  match s.disk.readText s.cwd path with
  | .ok t => pure t
  | .error e => throw (.io (e.describe (Value.str (normalPath path)).literal))

/-- The filter definitions of the filters setting. -/
def resolveFilters (text : String) : RunM String :=
  if isPathInput text then readFiltersFile text else pure text

/-- Loads and compiles the filters. -/
def loadRules (s : Settings) : RunM Rules.Table := do
  let text ← resolveFilters s.filters
  let table ← match Rules.load text with
    | .ok t => pure t
    | .error (.format e) => throw (.format e)
    | .error (.fault f) => throw (.fault f)
  logDebug "Filters loaded"
    [("filters", .int table.rules.length), ("quantifier", .str s.quantifier.name)]
  pure table

/-- Appends outputs to a file; multi-line values take fresh delimiters. -/
def writeOutputs (outs : List (String × String)) (path : String) : RunM Unit := do
  let s ← get
  let text := Output.outputText outs fun k => s.token (s.issued + k)
  let used := (outs.filter fun e => e.2.any fun c => c = '\n' || c = '\r').length
  match s.disk.append s.cwd path text with
  | .ok d => set { s with disk := d, issued := s.issued + used }
  | .error e => throw (.io (e.describe (Value.str path).literal))

/-- Exports outputs: to the output file, or printed. -/
def exportOutputs (s : Settings) (results : List (String × List ChangedFile)) :
    RunM (List (String × String)) := do
  let outs ← Output.buildOutputs results s.listFormat
  if s.outputFile.isEmpty then
    printLine (Json.write Json.indented (.map (outs.map fun e => (.str e.1, .str e.2))))
  else
    writeOutputs outs s.outputFile
    logDebug "Outputs written" [("path", .str s.outputFile)]
  pure outs

/-- Runs every step, passing failures on. -/
def execute (s : Settings) : RunM (List (String × String)) := do
  let table ← loadRules s
  let files ← detectChanges s
  logInfo ("Detected " ++ toString files.length ++ " changed files") []
  exportOutputs s (table.matchFiles s.quantifier files)

/-- Makes a directory the current one. -/
def changeDirectory (path : String) : RunM Unit := do
  let s ← get
  match s.disk.enter s.cwd path with
  | .ok p => set { s with cwd := p }
  | .error e => throw (.io (e.describe (Value.str path).literal))

/-- Runs in the working directory and gives the exit code; the current
    directory is restored afterwards. -/
def runFilter (s : Settings) : RunM Nat := do
  let saved := (← get).cwd
  let restore : RunM Unit := modify fun w => { w with cwd := saved }
  let code ← tryCatch (do
      if !s.workingDirectory.isEmpty then changeDirectory s.workingDirectory
      let _ ← execute s
      pure 0)
    (fun e => match e with
      | .fault _ => do
        restore
        throw e
      | .io a => do
        logError ("I/O error: " ++ a) []
        pure 1
      | e => do
        logError e.message []
        pure 1)
  restore
  pure code

end ChangeFilter
