import ChangeFilter.Value.Text
import ChangeFilter.Change
import ChangeFilter.Fault

/-! # Why a filter document is refused

    Each constructor is one cause, with the part of the document that shows it.
    `FormatError.message` words them all as `Invalid filter YAML format: …`.
    A `LoadError` is a refusal or a fault: a scalar that names an impossible
    value, or a sequence of rules that holds itself. -/

namespace ChangeFilter.Rules

/-- A cause for refusing a filter document. -/
inductive FormatError where
  /-- The text is not a readable data document. -/
  | unreadable
  /-- The document is not a mapping of names to rules. -/
  | rootNotMapping (found : Value)
  /-- A filter name is not text. -/
  | nameNotText (name : Value)
  /-- A filter name is empty. -/
  | emptyName
  /-- A rule node is neither text, a sequence nor a mapping. -/
  | unexpectedElement (node : Value)
  /-- A status entry has a key that is not text, or a value that is neither
      text nor a sequence. -/
  | badStatusEntry (key value : Value)
  /-- A pattern is not text. -/
  | patternNotText (pattern : Value)
  /-- A pattern is empty. -/
  | emptyPattern
  /-- A pattern holds a NUL character. -/
  | nulInPattern (pattern : String)
  /-- A status name is unknown. -/
  | unknownStatus (token : String)
  /-- A pattern has a bracket class with a reversed range. -/
  | badGlob (pattern : String)
  deriving Inhabited

/-- The status names, as listed in messages. -/
def statusNames : String :=
  ", ".intercalate (Status.all.map Status.name)

/-- The cause in words. -/
def FormatError.reason : FormatError → String
  | .unreadable => "Unable to parse YAML"
  | .rootNotMapping v => "Root element is not an object, but " ++ v.kind ++ " found"
  | .nameNotText v => "Filter name must be a string, but " ++ v.kind ++ " '" ++ v.display ++ "' found"
  | .emptyName => "Filter name cannot be empty"
  | .unexpectedElement v => "Unexpected element type '" ++ v.kind ++ "'"
  | .badStatusEntry k v =>
    "Expected [key:string]= pattern:string | string[], but [" ++ k.display ++ ":" ++ k.kind ++
      "]= " ++ v.display ++ ":" ++ v.kind ++ " found"
  | .patternNotText v => "Expected pattern:string, but " ++ v.kind ++ " '" ++ v.display ++ "' found"
  | .emptyPattern => "Pattern cannot be empty"
  | .nulInPattern p => "Pattern contains null bytes: " ++ (Value.str p).literal
  | .unknownStatus t => "Unknown change status '" ++ t ++ "'. Valid values: " ++ statusNames
  | .badGlob p => "Invalid glob pattern '" ++ p ++ "'"

/-- The full message. The messages of `.unreadable` and `.badGlob` end
    without a final period, where the reader's or the pattern compiler's own
    account of the failure would follow; that account is not kept. -/
def FormatError.message (e : FormatError) : String :=
  match e with
  | .unreadable | .badGlob _ => "Invalid filter YAML format: " ++ e.reason
  | _ => "Invalid filter YAML format: " ++ e.reason ++ "."

/-- Why filter text or a filter document could not be loaded. -/
inductive LoadError where
  /-- The document is unreadable or has the wrong shape. -/
  | format (e : FormatError)
  /-- A scalar of the document names an impossible value, or a sequence of
      rules holds itself, so that reading it never ends. -/
  | fault (f : Fault)
  deriving Inhabited

end ChangeFilter.Rules
