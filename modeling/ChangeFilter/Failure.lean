import ChangeFilter.Settings.Basic
import ChangeFilter.Rules.FormatError
import ChangeFilter.Git.Session
import ChangeFilter.Fault

/-! # Why a run stops

    `Failure` gathers every cause that stops a run or one of its steps: a
    refused configuration, a refused setting, a refused pull request listing,
    a refused filter document, a failing git command, a file that cannot be
    opened, and faults. Each cause has its message and, for the tool's own
    refusals, its error code. -/

namespace ChangeFilter

/-- Why configuration is refused. -/
inductive ConfigError where
  /-- A configuration file that does not exist. -/
  | fileMissing (path : String)
  /-- A configuration file that is no YAML document. -/
  | fileUnreadable (path : String)
  /-- A configuration file that cannot be opened, with the system's account. -/
  | fileUnopenable (path reason : String)
  /-- A configuration file whose document is not a mapping. -/
  | notMapping (path : String)
  /-- No filters are configured. -/
  | noFilters
  /-- A setting is refused. -/
  | setting (e : SettingError)
  /-- A filters file that does not exist. -/
  | filtersMissing (path : String)
  /-- A filters path that is a link or not a regular file. -/
  | filtersNotFile (path : String)
  /-- No ref is configured and none is checked out. -/
  | noHead
  /-- Neither a base nor a default branch is configured. -/
  | noBase
  deriving Inhabited

namespace ConfigError

/-- The message of a refused configuration. -/
def message : ConfigError → String
  | .fileMissing p => "Config file not found: " ++ p
  | .fileUnreadable p => "YAML parse error in " ++ p
  | .fileUnopenable p r => "Error loading config " ++ p ++ ": " ++ r
  | .notMapping p => "Invalid config format in " ++ p
  | .noFilters => "Filters configuration is required"
  | .setting e => e.message
  | .filtersMissing p => "Configuration file '" ++ p ++ "' not found"
  | .filtersNotFile p => "'" ++ p ++ "' is not a file."
  | .noHead => "'ref' must be configured or a branch, tag or commit must be checked out"
  | .noBase => "'base' or 'default_branch' must be configured"

/-- The code of a refused configuration. -/
def code : ConfigError → ErrorCode
  | .fileMissing _ | .filtersMissing _ => .notFound
  | .fileUnopenable _ _ => .permissionDenied
  | _ => .invalidInput

end ConfigError

/-- Why a pull request listing is refused. -/
inductive ListingError where
  /-- A row without a filename text. -/
  | noFilename (row : Value)
  /-- A row whose status names none. -/
  | unknownStatus (status : Value) (filename : String)
  /-- A listing file that does not exist. -/
  | missing (path : String)
  /-- A listing file that is no JSON document. -/
  | unreadable (path : String)
  /-- A listing that is not a list of rows. -/
  | notRows (path : String)
  deriving Inhabited

namespace ListingError

/-- The message of a refused listing. -/
def message : ListingError → String
  | .noFilename row => "Pull request file row has no filename: " ++ row.literal
  | .unknownStatus s f => "Unknown pull request file status '" ++ s.display ++ "' for " ++ f
  | .missing p => "Pull request files '" ++ p ++ "' not found"
  | .unreadable p => "Failed to read pull request files '" ++ p ++ "'"
  | .notRows p => "Pull request files '" ++ p ++ "' must contain a list of objects"

/-- The code of a refused listing. -/
def code : ListingError → ErrorCode
  | .missing _ => .notFound
  | _ => .invalidInput

end ListingError

/-- Why a run, or a step of it, stops. -/
inductive Failure where
  | config (e : ConfigError)
  | setting (e : SettingError)
  | listing (e : ListingError)
  | format (e : Rules.FormatError)
  | git (e : Git.GitError)
  /-- A file operation failed, with the system's account. -/
  | io (account : String)
  | fault (f : Fault)
  deriving Inhabited

/-- The message of a failure. -/
def Failure.message : Failure → String
  | .config e => e.message
  | .setting e => e.message
  | .listing e => e.message
  | .format e => e.message
  | .git e => e.message
  | .io a => a
  | .fault f => f.message

/-- A refused setting as a failure: an infinite depth is a fault. -/
def Failure.ofSetting : SettingError → Failure
  | .depthInfinite => .fault (.overflowError SettingError.depthInfinite.message)
  | e => .setting e

/-- A refused setting inside configuration: an infinite depth is a fault. -/
def Failure.ofConfigSetting : SettingError → Failure
  | .depthInfinite => .fault (.overflowError SettingError.depthInfinite.message)
  | e => .config (.setting e)

end ChangeFilter
