import ChangeFilter.Text.Number
import ChangeFilter.Text.Digit

/-! # Command-line arguments

    The command line takes options only. A long option may be shortened to
    any prefix that names one option alone, and may carry its value after
    `=`; a short option may carry its value right after it (`-fvalue`), and
    short flags may be joined (`-vh`), where a joined letter that names no
    option is a usage error. An argument that does not start with `-`, a lone
    `-`, a negative number (also before a final line feed), and a dash word
    with a blank are values. `--` ends the options: no option takes it or what follows it, so
    these are left over.

    Parsing goes left to right. Each option takes its value from the next
    argument when that is a value; `--initial-fetch-depth` needs integer
    text, and `--predicate-quantifier` and `--list-files` one of their
    choices. `--version` and `--help` end parsing with exit code 0 when they
    are reached; a usage error ends it with exit code 2. Values that no
    option takes are a usage error once everything else is parsed. -/

namespace ChangeFilter.Cli

/-- The program's name. -/
def programName : String := "pathsfilter"

/-- The program's version. -/
def version : String := "1.0.0"

/-- An option of the command line. -/
inductive Opt where
  | help
  | version
  | config
  | filters
  | base
  | ref
  | before
  | defaultBranch
  | fetchDepth
  | workingDirectory
  | prFiles
  | quantifier
  | listFiles
  | outputFile
  | debug
  | logFile
  deriving DecidableEq, Repr, Inhabited

/-- Every option with its spellings, in the order of the help text. -/
def optionTable : List (String × Opt) :=
  [("-h", .help), ("--help", .help), ("-v", .version), ("--version", .version),
   ("-c", .config), ("--config", .config), ("-f", .filters), ("--filters", .filters),
   ("--base", .base), ("--ref", .ref), ("--before", .before),
   ("--default-branch", .defaultBranch), ("--initial-fetch-depth", .fetchDepth),
   ("--working-directory", .workingDirectory), ("--pr-files", .prFiles),
   ("--predicate-quantifier", .quantifier), ("--list-files", .listFiles),
   ("--output-file", .outputFile), ("--debug", .debug), ("--log-file", .logFile)]

/-- Whether an option takes a value. -/
def Opt.takesValue : Opt → Bool
  | .help | .version | .debug => false
  | _ => true

/-- The spellings of an option joined by `/`, as usage errors name it. -/
def Opt.display (o : Opt) : String :=
  "/".intercalate ((optionTable.filter (·.2 == o)).map (·.1))

/-- The allowed values of an option, when it has a fixed set. -/
def Opt.choices : Opt → Option (List String)
  | .quantifier => some ["some", "every"]
  | .listFiles => some ["none", "csv", "json", "shell", "escape"]
  | _ => none

/-- The arguments of one invocation; an option not given is `none`. -/
structure Arguments where
  config : Option String
  filters : Option String
  base : Option String
  ref : Option String
  before : Option String
  defaultBranch : Option String
  fetchDepth : Option Int
  workingDirectory : Option String
  prFiles : Option String
  quantifier : Option String
  listFiles : Option String
  outputFile : Option String
  debug : Bool
  logFile : Option String
  deriving Inhabited, Repr

/-- No option given. -/
def Arguments.empty : Arguments :=
  ⟨none, none, none, none, none, none, none, none, none, none, none, none, false, none⟩

/-- How parsing ends early. -/
inductive Stop where
  /-- `--version` or `--help`: exit code 0 with text for standard output. -/
  | shown (text : String)
  /-- A usage error, with its message. -/
  | usage (message : String)
  deriving Inhabited

/-- What an argument is: a value, or an option (unknown when `none`) with the
    spelling that matched and an attached value. -/
inductive Token where
  | value (text : String)
  | option (opt : Option Opt) (spelling : String) (attached : Option String)
  /-- `--` and every argument after it: no option takes them. -/
  | rest (args : List String)
  deriving Inhabited

/-- Whether text is a negative number: `-` and digits, or `-`, digits, a
    point and digits, before an optional final line feed. -/
def isNegativeNumber (s : String) : Bool :=
  match (Text.dropFinalLineFeed s).toList with
  | '-' :: rest =>
    let isDigit (c : Char) : Bool := (Text.digitValue? c).isSome
    match rest.span isDigit with
    | (ds, []) => !ds.isEmpty
    | (_, '.' :: frac) => !frac.isEmpty && frac.all isDigit
    | _ => false
  | _ => false

/-- The options whose spellings an argument may stand for. -/
def candidates (arg : String) : List (String × Opt × Option String) :=
  if "--".isPrefixOf arg then
    let (pre, attached) := match arg.splitOn "=" with
      | p :: rest@(_ :: _) => (p, some ("=".intercalate rest))
      | _ => (arg, none)
    (optionTable.filter fun e => pre.isPrefixOf e.1).map fun e => (e.1, e.2, attached)
  else
    let short := String.ofList (arg.toList.take 2)
    let rest := String.ofList (arg.toList.drop 2)
    optionTable.filterMap fun e =>
      if e.1 == short then some (e.1, e.2, some rest)
      else if arg.isPrefixOf e.1 then some (e.1, e.2, none)
      else none

/-- Reads one argument (before `--`). -/
def classify (arg : String) : Except Stop Token :=
  if !"-".isPrefixOf arg || arg.length < 2 then .ok (.value arg)
  else match optionTable.lookup arg with
  | some o => .ok (.option (some o) arg none)
  | none =>
    let byEquals := match arg.splitOn "=" with
      | p :: rest@(_ :: _) => (optionTable.lookup p).map fun o => (o, p, "=".intercalate rest)
      | _ => none
    match byEquals with
    | some (o, p, v) => .ok (.option (some o) p (some v))
    | none =>
      match candidates arg with
      | [(spelling, o, attached)] => .ok (.option (some o) spelling attached)
      | [] =>
        if isNegativeNumber arg || arg.any (· == ' ') then .ok (.value arg)
        else .ok (.option none arg none)
      | cs =>
        .error (.usage ("ambiguous option: " ++ arg ++ " could match " ++
          ", ".intercalate (cs.map (·.1))))

/-- Reads every argument; `--` ends the options, and it and what follows are
    left for no option to take. -/
def tokenize : List String → Except Stop (List Token)
  | [] => .ok []
  | "--" :: rest => .ok [.rest ("--" :: rest)]
  | arg :: rest => do
    let t ← classify arg
    let ts ← tokenize rest
    pure (t :: ts)

/-- The usage line. -/
def usageLine : String :=
  "usage: pathsfilter [-h] [-v] [-c FILE] [-f YAML|FILE] [--base REF] [--ref REF]\n" ++
  "                   [--before SHA] [--default-branch BRANCH]\n" ++
  "                   [--initial-fetch-depth N] [--working-directory DIR]\n" ++
  "                   [--pr-files FILE] [--predicate-quantifier \x7bsome,every\x7d]\n" ++
  "                   [--list-files \x7bnone,csv,json,shell,escape\x7d]\n" ++
  "                   [--output-file FILE] [--debug] [--log-file FILE]\n"

/-- The help text: usage, description, the options by group with their help
    wrapped at 78 columns from column 24, and the examples. -/
def helpText : String :=
  usageLine ++ "\n" ++
  "pathsfilter - Match changed files against named path filters\n\n" ++
  "options:\n" ++
  "  -h, --help            show this help message and exit\n" ++
  "  -v, --version         show program's version number and exit\n" ++
  "  -c FILE, --config FILE\n" ++
  "                        Settings file path (YAML format)\n" ++
  "  -f YAML|FILE, --filters YAML|FILE\n" ++
  "                        Filter definitions as inline YAML, or path to a YAML\n" ++
  "                        file\n\n" ++
  "change detection options:\n" ++
  "  --base REF            Branch, tag or commit to compare against, or HEAD for\n" ++
  "                        uncommitted changes\n" ++
  "  --ref REF             Branch, tag or commit to inspect (default: currently\n" ++
  "                        checked out ref)\n" ++
  "  --before SHA          Commit before the push, used when base equals ref\n" ++
  "  --default-branch BRANCH\n" ++
  "                        Repository default branch, used when --base is not\n" ++
  "                        given\n" ++
  "  --initial-fetch-depth N\n" ++
  "                        Number of commits fetched before searching for a merge\n" ++
  "                        base (default: 100)\n" ++
  "  --working-directory DIR\n" ++
  "                        Repository directory (default: current directory)\n" ++
  "  --pr-files FILE       JSON listing of pull request files to use instead of\n" ++
  "                        git\n\n" ++
  "matching and output options:\n" ++
  "  --predicate-quantifier \x7bsome,every\x7d\n" ++
  "                        Whether some or every predicate of a filter must match\n" ++
  "                        (default: some)\n" ++
  "  --list-files \x7bnone,csv,json,shell,escape\x7d\n" ++
  "                        Format of the <filter>_files outputs (default: none)\n" ++
  "  --output-file FILE    Append outputs as name=value lines (default: print\n" ++
  "                        JSON to stdout)\n\n" ++
  "logging options:\n" ++
  "  --debug               Enable debug logging\n" ++
  "  --log-file FILE       Also write logs to FILE\n\n" ++
  "Examples:\n" ++
  "  # Compare the current branch with main\n" ++
  "  pathsfilter --filters .github/filters.yaml --base main\n\n" ++
  "  # Inline filters, uncommitted changes only\n" ++
  "  pathsfilter --filters $'src:\\n  - src/**' --base HEAD\n\n" ++
  "  # Write GitHub Actions outputs with JSON file lists\n" ++
  "  pathsfilter --config pathsfilter.yaml --list-files json --output-file \"$GITHUB_OUTPUT\"\n\n" ++
  "  # Use a pull request file listing instead of git\n" ++
  "  pathsfilter --filters filters.yaml --pr-files pr-files.json\n\n" ++
  "Settings may also come from PATHSFILTER_* environment variables,\n" ++
  "e.g. PATHSFILTER_LIST_FILES=csv or PATHSFILTER_LOGGING__LEVEL=DEBUG.\n" ++
  "        \n"

/-- Stores a value for an option, checking its type and choices. -/
def store (a : Arguments) (o : Opt) (v : String) : Except Stop Arguments :=
  let bad (msg : String) : Except Stop Arguments :=
    .error (.usage ("argument " ++ o.display ++ ": " ++ msg))
  match o.choices with
  | some cs =>
    if cs.contains v then
      .ok (if o == .quantifier then { a with quantifier := some v } else { a with listFiles := some v })
    else
      bad ("invalid choice: '" ++ v ++ "' (choose from " ++
        ", ".intercalate (cs.map fun c => "'" ++ c ++ "'") ++ ")")
  | none =>
    match o with
    | .fetchDepth =>
      match Text.readInt v 10 with
      | some n => .ok { a with fetchDepth := some n }
      | none => bad ("invalid int value: '" ++ v ++ "'")
    | .config => .ok { a with config := some v }
    | .filters => .ok { a with filters := some v }
    | .base => .ok { a with base := some v }
    | .ref => .ok { a with ref := some v }
    | .before => .ok { a with before := some v }
    | .defaultBranch => .ok { a with defaultBranch := some v }
    | .workingDirectory => .ok { a with workingDirectory := some v }
    | .prFiles => .ok { a with prFiles := some v }
    | .outputFile => .ok { a with outputFile := some v }
    | .logFile => .ok { a with logFile := some v }
    | _ => .ok a

/-- Acts on a flag. -/
def flag (a : Arguments) : Opt → Except Stop Arguments
  | .help => .error (.shown helpText)
  | .version => .error (.shown (programName ++ " " ++ version ++ "\n"))
  | .debug => .ok { a with debug := true }
  | _ => .ok a

/-- A usage error for a value given to an option that takes none. -/
def ignored (o : Opt) (v : String) : Stop :=
  .usage ("argument " ++ o.display ++ ": ignored explicit argument '" ++ v ++ "'")

/-- What one argument of options stands for: the options in order, each with
    the value it takes. -/
structure Chain where
  steps : List (Opt × Option String)
  /-- Whether the next argument was taken as a value. -/
  took : Bool
  deriving Inhabited

/-- Reads a short option with the text after it in the same argument (`none`
    when nothing follows). A letter after an option that takes no value names
    the next option: `-vh` is `-v -h`, and `-vfx` gives `x` to `-f`; a letter
    that names no option is text the option before it cannot take. Nothing is
    acted on here, so an error anywhere in the argument comes before every
    option of it. -/
def chain (o : Opt) (explicit : Option (List Char)) (next : Option Token) : Except Stop Chain :=
  match explicit with
  | none =>
    if o.takesValue then
      match next with
      | some (.value v) => .ok ⟨[(o, some v)], true⟩
      | _ => .error (.usage ("argument " ++ o.display ++ ": expected one argument"))
    else .ok ⟨[(o, none)], false⟩
  | some text =>
    if o.takesValue then .ok ⟨[(o, some (String.ofList text))], false⟩
    else
      match text with
      | [] => .error (ignored o "")
      | c :: rest =>
        match optionTable.lookup (String.ofList ['-', c]) with
        | none => .error (ignored o (String.ofList text))
        | some o' =>
          let add (ch : Chain) : Chain := { ch with steps := (o, none) :: ch.steps }
          match rest with
          | [] => (chain o' none next).map add
          | more => (chain o' (some more) next).map add
termination_by (explicit.getD []).length
decreasing_by
  all_goals simp_wf

/-- Acts on one option with the value it takes. -/
def apply (a : Arguments) : Opt × Option String → Except Stop Arguments
  | (o, some v) => store a o v
  | (o, none) => flag a o

/-- Parses tokens; values no option takes are collected. -/
def parseTokens : List Token → Arguments → List String → Except Stop (Arguments × List String)
  | [], a, extra => .ok (a, extra)
  | .value v :: rest, a, extra => parseTokens rest a (extra ++ [v])
  | .option none s _ :: rest, a, extra => parseTokens rest a (extra ++ [s])
  | .rest args :: _, a, extra => .ok (a, extra ++ args)
  | .option (some o) spelling attached :: rest, a, extra => do
    if "--".isPrefixOf spelling then
      match attached with
      | some v =>
        if o.takesValue then
          let a ← store a o v
          parseTokens rest a extra
        else throw (ignored o v)
      | none =>
        if o.takesValue then
          match rest with
          | .value v :: more =>
            let a ← store a o v
            parseTokens more a extra
          | _ => throw (.usage ("argument " ++ o.display ++ ": expected one argument"))
        else
          let a ← flag a o
          parseTokens rest a extra
    else
      let ch ← chain o (attached.map String.toList) rest.head?
      let a ← ch.steps.foldlM apply a
      parseTokens (if ch.took then rest.drop 1 else rest) a extra
termination_by ts => ts.length
decreasing_by
  all_goals simp_wf
  all_goals first
    | omega
    | (have : rest.tail.length = rest.length - 1 := List.length_tail
       split <;> omega)

/-- Parses a command line. -/
def parse (argv : List String) : Except Stop Arguments := do
  let tokens ← tokenize argv
  let (a, extra) ← parseTokens tokens Arguments.empty []
  if extra.isEmpty then pure a
  else throw (.usage ("unrecognized arguments: " ++ " ".intercalate extra))

end ChangeFilter.Cli
