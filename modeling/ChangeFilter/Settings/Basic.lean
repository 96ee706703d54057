import ChangeFilter.Log
import ChangeFilter.Text.Lower
import ChangeFilter.Text.Number
import ChangeFilter.Output.ListFormat
import ChangeFilter.Rules.Engine

/-! # Settings of a run

    `Settings` holds what one run needs: the filters (inline YAML or a file
    path), how file lists are written, how predicates combine, the refs to
    compare, the working directory, the first fetch depth of a merge-base
    search, a pull request listing, the output file and the log level.

    Each raw setting is checked on its own:

    * a list format is named by the lower case of its display form;
    * a quantifier is exactly the text `some` or `every`;
    * a log level is named by the upper case of its display form, blanks
      around it dropped;
    * a fetch depth is an integer, a float cut toward zero, or integer text;
      it must be positive, and it is capped at `maxFetchDepth`. -/

namespace ChangeFilter

/-- The largest fetch depth a setting keeps. -/
def maxFetchDepth : Nat := Nat.pow 2 53 - 1

/-- The fetch depth when none is set. -/
def defaultFetchDepth : Nat := 100

/-- Why a raw setting is refused. -/
inductive SettingError where
  /-- A list format that names none. -/
  | listFormat (value : Value)
  /-- A quantifier other than `some` and `every`. -/
  | quantifier (value : Value)
  /-- A log level that names none. -/
  | logLevel (value : Value)
  /-- A fetch depth that is no number, shown as in the message. -/
  | depthNotNumber (shown : String)
  /-- A fetch depth below one. -/
  | depthNotPositive (n : Int)
  /-- An infinite float as a fetch depth, which no integer converts. -/
  | depthInfinite
  deriving Inhabited

/-- The names of the log levels, as listed in messages. -/
def levelNames : String :=
  ", ".intercalate (Level.all.map Level.name)

/-- The message of a refused setting. -/
def SettingError.message : SettingError → String
  | .listFormat v => "Input parameter 'list-files' is set to invalid value '" ++ v.display ++ "'"
  | .quantifier v =>
    "Input parameter 'predicate-quantifier' is set to invalid value '" ++ v.display ++
      "'. Valid values: some, every"
  | .logLevel v => "Invalid log level '" ++ v.display ++ "'. Valid values: " ++ levelNames
  | .depthNotNumber s => "Fetch depth must be numeric, got " ++ s
  | .depthNotPositive n => "Fetch depth must be positive, got " ++ toString n
  | .depthInfinite => "cannot convert float infinity to integer"

/-- Checks a list format. -/
def checkListFormat (v : Value) : Except SettingError Output.ListFormat :=
  match Output.ListFormat.ofName? (Text.lower v.display) with
  | some f => .ok f
  | none => .error (.listFormat v)

/-- Checks a quantifier. -/
def checkQuantifier (v : Value) : Except SettingError Rules.Quantifier :=
  match Rules.Quantifier.ofValue? v with
  | some q => .ok q
  | none => .error (.quantifier v)

/-- Checks a log level. -/
def checkLogLevel (v : Value) : Except SettingError Level :=
  match Level.ofName? (Text.upper (Text.trimBlank v.display)) with
  | some l => .ok l
  | none => .error (.logLevel v)

/-- A float cut toward zero; none for a NaN, and the sign for an infinity. -/
def truncateFloat (x : Float) : Except Bool Int :=
  match Decimal.classify x with
  | .finite b =>
    let n : Int := if b.negative then -(b.mantissa : Int) else b.mantissa
    if b.exponent ≥ 0 then .ok (n * Int.pow 2 b.exponent.toNat)
    else .ok (n.tdiv (Int.pow 2 (-b.exponent).toNat))
  | .infinite _ => .error true
  | .nan => .error false

/-- The integer a raw fetch depth converts to. -/
def depthNumber (v : Value) : Except SettingError Int :=
  match v with
  | .bool _ => .error (.depthNotNumber "<class 'bool'>")
  | .int n => .ok n
  | .float x =>
    match truncateFloat x with
    | .ok n => .ok n
    | .error true => .error .depthInfinite
    | .error false => .error (.depthNotNumber "nan")
  | .str s =>
    match Text.readInt s 10 with
    | some n => .ok n
    | none => .error (.depthNotNumber v.literal)
  | .bytes data =>
    let text := String.ofList (data.map Char.ofNat)
    match (if data.all (· < 128) then Text.readInt text 10 else none) with
    | some n => .ok n
    | none => .error (.depthNotNumber v.literal)
  | _ => .error (.depthNotNumber v.literal)

/-- Checks a fetch depth: a positive integer, capped at `maxFetchDepth`. -/
def checkFetchDepth (v : Value) : Except SettingError Nat := do
  let n ← depthNumber v
  if n ≤ 0 then throw (.depthNotPositive n)
  pure (min n.toNat maxFetchDepth)

theorem checkFetchDepth_le (v : Value) (n : Nat) (h : checkFetchDepth v = .ok n) :
    n ≤ maxFetchDepth := by
  unfold checkFetchDepth at h
  cases hd : depthNumber v with
  | error e => simp [hd, bind, Except.bind] at h
  | ok m =>
    simp only [hd, bind, Except.bind] at h
    split at h
    · simp [throw, throwThe, MonadExceptOf.throw] at h
    · simp only [pure, Except.pure, Except.ok.injEq] at h
      omega

/-- Settings of one run. -/
structure Settings where
  filters : String
  listFormat : Output.ListFormat
  quantifier : Rules.Quantifier
  base : String
  ref : String
  before : String
  defaultBranch : String
  workingDirectory : String
  fetchDepth : Nat
  prFiles : String
  outputFile : String
  logLevel : Level
  logFile : String
  deriving Inhabited

/-- The settings for filters with every other setting at its default: no
    file lists, `some` predicate, no refs, a fetch depth of 100, `INFO`. -/
def Settings.ofFilters (filters : String) : Settings :=
  ⟨filters, .none, .any, "", "", "", "", "", defaultFetchDepth, "", "", .info, ""⟩

end ChangeFilter
