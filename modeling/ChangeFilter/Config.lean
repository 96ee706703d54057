import ChangeFilter.Failure
import ChangeFilter.Disk
import ChangeFilter.Yaml.Read

/-! # Layered configuration

    Configuration comes in four layers, from the lowest precedence: the
    built-in defaults, a configuration file, the environment and the command
    line. Each layer is a mapping; keys are dotted paths into nested mappings
    (`logging.level`).

    * Reading a key takes the value of the highest layer that has one other
      than null, else a default.
    * The merged configuration lays the layers over each other from the
      lowest: a mapping over a mapping is merged key by key, anything else
      replaces what was there.
    * Keys from files and the command line are written with `_` for `-`, in
      nested mappings too; a file whose mappings hold themselves is a fault,
      since that rewriting never ends, while other values are kept as read.
    * An environment variable `PATHSFILTER_A__B` sets `a.b`, when the
      defaults have a plain value there; integer defaults read integer text.

    `Config.settings` checks the merged configuration into `Settings`. -/

namespace ChangeFilter

/-- Where configuration comes from, from the lowest precedence. -/
inductive Source where
  | defaults
  | file
  | environment
  | arguments
  deriving DecidableEq, Repr, Inhabited

/-- The name of a source. -/
def Source.name : Source → String
  | .defaults => "COMPILED_DEFAULTS"
  | .file => "CONFIG_FILE"
  | .environment => "ENVIRONMENT"
  | .arguments => "CLI_ARGS"

/-- The source with a given name. -/
def Source.ofName? (s : String) : Option Source :=
  [Source.defaults, .file, .environment, .arguments].find? (·.name == s)

/-- A mapping of a configuration layer. -/
abbrev Mapping := List (Value × Value)

/-- The prefix of configuration variables in the environment. -/
def envPrefix : String := "PATHSFILTER_"

/-- The built-in configuration. -/
def defaultConfig : Mapping :=
  [(.str "filters", .str ""), (.str "list_files", .str "none"),
   (.str "predicate_quantifier", .str "some"), (.str "base", .str ""), (.str "ref", .str ""),
   (.str "before", .str ""), (.str "default_branch", .str ""),
   (.str "working_directory", .str ""), (.str "initial_fetch_depth", .int 100),
   (.str "pr_files", .str ""), (.str "output_file", .str ""),
   (.str "logging", .map [(.str "level", .str "INFO"), (.str "file", .str "")])]

/-- The value of a mapping under a key. -/
def Mapping.valueAt (m : Mapping) (k : Value) : Option Value :=
  (List.find? (fun e => Value.sameKey e.1 k) m).map (·.2)

/-- The value at a dotted path, when every step is a mapping that has the key. -/
def Mapping.atPath (m : Mapping) (key : String) : Option Value :=
  go (.map m) (key.splitOn ".")
where
  /-- Follows the path from a value. -/
  go : Value → List String → Option Value
    | v, [] => some v
    | .map es, p :: rest =>
      match Mapping.valueAt es (.str p) with
      | some v => go v rest
      | none => none
    | _, _ :: _ => none

/-! ## Keys written with `_` -/

/-- A key as text with `_` for `-`. -/
def normalKey (k : Value) : String :=
  k.display.replace "-" "_"

/-- Collects pairs into a mapping: a repeated key keeps its first place and
    takes the last value. -/
def collect (pairs : List (Value × Value)) : Mapping :=
  pairs.foldl (fun acc e => Value.insertEntry acc e.1 e.2) []

mutual
/-- A value with the keys of its nested mappings written with `_`. -/
def normalValue : Value → Value
  | .map es => .map (collect (normalPairs es))
  | v => v

/-- Mapping entries with keys written with `_`, values normalised. -/
def normalPairs : List (Value × Value) → List (Value × Value)
  | [] => []
  | (k, v) :: rest => (.str (normalKey k), normalValue v) :: normalPairs rest
end

/-- The mapping of cell `n` of a document, keys written with `_` and nested
    mappings likewise, other values as they are; `fresh` holds the mappings
    not open around it. A mapping met again inside itself is a fault, since
    writing it out never ends. -/
def normalCell (doc : Graph) (fresh : List Nat) (n : Nat) : Except Fault Mapping :=
  match doc.cell n with
  | .map entries =>
    if _h : fresh.contains n then do
      let pairs ← entries.mapM fun (k, m) => do
        let v ← match doc.cell m with
          | .map _ => Value.map <$> normalCell doc (fresh.erase n) m
          | _ => pure (doc.view m)
        pure (Value.str (normalKey k), v)
      pure (collect pairs)
    else .error Fault.endless
  | _ => .ok []
termination_by fresh.length
decreasing_by
  have hm : n ∈ fresh := List.contains_iff_mem.mp _h
  have hl := List.length_erase_of_mem hm
  have hp := List.length_pos_of_mem hm
  omega

/-! ## Merging -/

/-- Lays `upper` on `base`: a mapping over a mapping merges, anything else
    replaces. -/
def deepMerge (base upper : Mapping) : Mapping :=
  go base upper
where
  /-- Merges the entries of `upper` one by one. -/
  go (base : Mapping) : Mapping → Mapping
    | [] => base
    | (k, v) :: rest =>
      let merged := match Mapping.valueAt base k, v with
        | some (.map b), .map o => .map (go b o)
        | _, _ => v
      go (Value.insertEntry base k merged) rest

/-! ## Writing at a path -/

/-- Writes a value at a path below a value: every step but the last must be a
    mapping (a missing step becomes an empty one), and so must the value the
    last step writes into. -/
def setAt : Value → List String → Value → Except Fault Value
  | .map es, [last], v => .ok (.map (Value.insertEntry es (.str last) v))
  | .seq _, [_], _ => .error (.typeError "list indices must be integers or slices, not str")
  | other, [_], _ => .error (.typeError ("'" ++ other.typeName ++ "' object does not support item assignment"))
  | .map es, p :: rest@(_ :: _), v => do
    let child := (Mapping.valueAt es (.str p)).getD (.map [])
    let child ← setAt child rest v
    pure (.map (Value.insertEntry es (.str p) child))
  | other, _ :: _ :: _, _ =>
    .error (Fault.noAttribute other.typeName "setdefault")
  | other, [], _ => .ok other

/-- A mapping written at a path. -/
def Mapping.setAt (m : Mapping) (parts : List String) (v : Value) : Except Fault Mapping :=
  match ChangeFilter.setAt (.map m) parts v with
  | .ok (.map es) => .ok es
  | .ok _ => .ok m
  | .error e => .error e

/-! ## The environment -/

/-- An environment value read as the type of its default: integer text for
    an integer, `true`, `yes` or `1` for a boolean, text otherwise. -/
def envValue (text : String) : Value → Value
  | .bool _ => .bool (["true", "yes", "1"].contains (Text.lower text))
  | .int _ =>
    match Text.readInt text 10 with
    | some n => .int n
    | none => .str text
  | _ => .str text

/-- The environment layer of a list of variables. -/
def envLayer (env : List (String × String)) : Mapping :=
  env.foldl step []
where
  /-- Adds one variable, when it names a plain default. -/
  step (acc : Mapping) (var : String × String) : Mapping :=
    if envPrefix.isPrefixOf var.1 then
      let parts := (Text.lower (String.ofList (var.1.toList.drop envPrefix.length))).splitOn "__"
      match defaultConfig.atPath (".".intercalate parts) with
      | none | some .null | some (.map _) => acc
      | some d =>
        match acc.setAt parts (envValue var.2 d) with
        | .ok m => m
        | .error _ => acc
    else acc

/-! ## The layers -/

/-- Configuration: one mapping per source. -/
structure Config where
  defaults : Mapping
  file : Mapping
  environment : Mapping
  arguments : Mapping
  deriving Inhabited

namespace Config

/-- The mapping of a source. -/
def layer (c : Config) : Source → Mapping
  | .defaults => c.defaults
  | .file => c.file
  | .environment => c.environment
  | .arguments => c.arguments

/-- Replaces the mapping of a source. -/
def withLayer (c : Config) (s : Source) (m : Mapping) : Config :=
  match s with
  | .defaults => { c with defaults := m }
  | .file => { c with file := m }
  | .environment => { c with environment := m }
  | .arguments => { c with arguments := m }

/-- The sources from the highest precedence. -/
def descending : List Source := [.arguments, .environment, .file, .defaults]

/-- The value of a dotted key: the highest layer's value other than null,
    else `fallback`. -/
def get (c : Config) (key : String) (fallback : Value) : Value :=
  match descending.findSome? (fun s =>
      match (c.layer s).atPath key with
      | some .null | none => none
      | some v => some v) with
  | some v => v
  | none => fallback

/-- The layers merged from the lowest. -/
def merged (c : Config) : Mapping :=
  descending.reverse.foldl (fun acc s => deepMerge acc (c.layer s)) []

/-- Writes a value at a dotted key of a source. -/
def set (c : Config) (key : String) (v : Value) (s : Source) : Except Fault Config := do
  let m ← (c.layer s).setAt (key.splitOn ".") v
  pure (c.withLayer s m)

/-- Replaces a source with a mapping, keys written with `_` and null values
    left out. -/
def loadMapping (c : Config) (data : Value) (s : Source) : Except Fault Config :=
  match data with
  | .map es =>
    let m := (collect (normalPairs es)).filter fun e => !(e.2 matches .null)
    .ok (c.withLayer s m)
  | other => .error (Fault.noAttribute other.typeName "items")

/-- Replaces a source with the mapping of a YAML file. -/
def loadFile (c : Config) (disk : Disk) (cwd : List String) (path : String) (s : Source) :
    Except Failure Config := do
  if !disk.exists? cwd path then throw (.config (.fileMissing path))
  let text ← match disk.readText cwd path with
    | .ok t => pure t
    | .error e =>
      throw (.config (.fileUnopenable path (e.describe (Value.str (normalPath path)).literal)))
  let doc ← match Yaml.read Yaml.Schema.yaml11 text with
    | .ok v => pure v
    | .error e =>
      match Fault.ofData e with
      | some f => throw (.fault f)
      | none => throw (.config (.fileUnreadable path))
  match doc.cell doc.root with
  | .scalar .null => pure (c.withLayer s [])
  | .map _ =>
    match normalCell doc (List.range doc.cells.size) doc.root with
    | .ok m => pure (c.withLayer s m)
    | .error f => throw (.fault f)
  | _ => throw (.config (.notMapping path))

/-- Empties a source, or every source but the defaults; the defaults stay. -/
def clear (c : Config) : Option Source → Config
  | some .defaults => c
  | some s => c.withLayer s []
  | none => { c with file := [], environment := [], arguments := [] }

/-- Configuration from the defaults, a configuration file when one is named,
    and the environment. -/
def create (configFile : String) (env : List (String × String)) (disk : Disk)
    (cwd : List String) : Except Failure Config := do
  let c : Config := ⟨defaultConfig, [], [], []⟩
  let c ← if configFile.isEmpty then pure c else c.loadFile disk cwd configFile .file
  pure { c with environment := envLayer env }

/-- The text of a value that counts as true, else empty. -/
def textOr (v : Option Value) : String :=
  match v with
  | some v => if v.truthy then v.display else ""
  | none => ""

/-- A key of the merged configuration that must be present. -/
def required (m : Mapping) (key : String) : Except Failure Value :=
  match Mapping.valueAt m (.str key) with
  | some v => .ok v
  | none => .error (.fault (.keyError (Value.str key).literal))

/-- A setting check inside configuration. -/
def check {α : Type} (r : Except SettingError α) : Except Failure α :=
  r.mapError Failure.ofConfigSetting

/-- Checks the merged configuration into settings. -/
def settings (c : Config) : Except Failure Settings := do
  let m := c.merged
  let filters := Mapping.valueAt m (.str "filters")
  let filters ← match filters with
    | some (.str f) => if (Text.trimBlank f).isEmpty then throw (.config .noFilters) else pure f
    | _ => throw (.config .noFilters)
  let logging := match Mapping.valueAt m (.str "logging") with
    | some v => if v.truthy then v else .map []
    | none => .map []
  let listFormat ← check (checkListFormat (← required m "list_files"))
  let quantifier ← check (checkQuantifier (← required m "predicate_quantifier"))
  let base := textOr (Mapping.valueAt m (.str "base"))
  let ref := textOr (Mapping.valueAt m (.str "ref"))
  let before := textOr (Mapping.valueAt m (.str "before"))
  let defaultBranch := textOr (Mapping.valueAt m (.str "default_branch"))
  let workingDirectory := textOr (Mapping.valueAt m (.str "working_directory"))
  let depth ← check (checkFetchDepth (← required m "initial_fetch_depth"))
  let prFiles := textOr (Mapping.valueAt m (.str "pr_files"))
  let outputFile := textOr (Mapping.valueAt m (.str "output_file"))
  let loggingMap ← match logging with
    | .map es => pure es
    | other => throw (.fault (Fault.noAttribute other.typeName "get"))
  let levelValue := match Mapping.valueAt loggingMap (.str "level") with
    | some v => if v.truthy then v else .str "INFO"
    | none => .str "INFO"
  let level ← check (checkLogLevel levelValue)
  let logFile := textOr (Mapping.valueAt loggingMap (.str "file"))
  pure ⟨filters, listFormat, quantifier, base, ref, before, defaultBranch, workingDirectory,
    depth, prFiles, outputFile, level, logFile⟩

end Config

end ChangeFilter
