import ChangeFilter.Log
import ChangeFilter.Output.ListFormat
import ChangeFilter.Change

/-! # Named outputs of a match

    Each filter gives the outputs `name` (`true` when a file matched, else
    `false`), `name_count` (how many files matched) and, unless the list
    format is `none`, `name_files` (the matched paths in that format). Then
    `changes` is the compact JSON list of the filters that matched, unless a
    filter is itself named `changes`. An output written twice keeps its first
    place and its last value.

    The match is reported in the log: a `Results:` line, then per filter a
    group `Filter name = true|false` listing the matched files.

    Outputs are written to a file as `name=value` lines; a value with a line
    break is written as a heredoc between two lines of a fresh delimiter. -/

namespace ChangeFilter.Output

/-- The name of the aggregate output. -/
def changesOutput : String := "changes"

/-- Writes an output: a present name keeps its place and takes the value. -/
def putOutput (outs : List (String × String)) (name value : String) : List (String × String) :=
  if outs.any (·.1 == name) then outs.map fun e => if e.1 == name then (name, value) else e
  else outs ++ [(name, value)]

/-- `true` or `false`. -/
def boolText (b : Bool) : String := if b then "true" else "false"

section Build

variable {m : Type → Type} [Monad m] [MonadLog m] {ε : Type} [MonadExcept ε m]

/-- Reports one filter's files in the log. -/
def reportFilter (name : String) (files : List ChangedFile) : m Unit :=
  grouped ("Filter " ++ name ++ " = " ++ boolText !files.isEmpty) do
    if files.isEmpty then logInfo "Matching files: none" []
    else
      logInfo "Matching files:" []
      files.forM fun f => logInfo f.display []

/-- The outputs of a match, filter by filter, reported in the log. -/
def buildOutputs (results : List (String × List ChangedFile)) (fmt : ListFormat) :
    m (List (String × String)) := do
  logInfo "Results:" []
  let mut outs : List (String × String) := []
  let mut matched : List String := []
  for (name, files) in results do
    reportFilter name files
    if !files.isEmpty then matched := matched ++ [name]
    outs := putOutput outs name (boolText !files.isEmpty)
    outs := putOutput outs (name ++ "_count") (toString files.length)
    if fmt != .none then
      outs := putOutput outs (name ++ "_files") (render fmt (files.map (·.path)))
  if results.any (·.1 == changesOutput) then
    logWarning "Cannot set changes output variable - name already used by filter output" []
  else
    let text := render .json matched
    logInfo ("Changes output set to " ++ text) []
    outs := putOutput outs changesOutput text
  pure outs

end Build

/-- A heredoc delimiter made from a fresh token. -/
def delimiter (token : String) : String := "ghadelimiter_" ++ token

/-- The text that writes outputs to an output file; the `k`-th multi-line
    value is delimited with `token k`. -/
def outputText (outs : List (String × String)) (token : Nat → String) : String :=
  go outs 0
where
  /-- Writes the outputs from the `k`-th multi-line value on. -/
  go : List (String × String) → Nat → String
    | [], _ => ""
    | (name, value) :: rest, k =>
      if value.any (fun c => c = '\n' || c = '\r') then
        let d := delimiter (token k)
        name ++ "<<" ++ d ++ "\n" ++ value ++ "\n" ++ d ++ "\n" ++ go rest (k + 1)
      else name ++ "=" ++ value ++ "\n" ++ go rest k

end ChangeFilter.Output
