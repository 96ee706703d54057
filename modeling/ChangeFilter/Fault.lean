import ChangeFilter.Yaml.Token

/-! # Faults

    A fault is a failure that is none of the tool's own refusals: an operation
    applied to a value of the wrong type, a key that is missing, a number that
    cannot be converted. Each constructor is one kind of fault, with its
    message; the tool reports faults as unexpected errors. -/

namespace ChangeFilter

/-- A failure outside the tool's own refusals. -/
inductive Fault where
  /-- An operation applied to a value of the wrong type. -/
  | typeError (message : String)
  /-- A value without the operation asked of it. -/
  | attributeError (message : String)
  /-- A value of the right type but an impossible content. -/
  | valueError (message : String)
  /-- A missing key; the message is the key's literal form. -/
  | keyError (message : String)
  /-- A position past the end. -/
  | indexError (message : String)
  /-- A number too large to convert. -/
  | overflowError (message : String)
  /-- A structure followed into itself without end. -/
  | recursionError (message : String)
  deriving Inhabited

/-- The message of a fault. -/
def Fault.message : Fault → String
  | .typeError m | .attributeError m | .valueError m | .keyError m | .indexError m
  | .overflowError m | .recursionError m => m

/-- The fault of asking a value of the type named `typeName` for an
    attribute it does not have. -/
def Fault.noAttribute (typeName member : String) : Fault :=
  .attributeError ("'" ++ typeName ++ "' object has no attribute '" ++ member ++ "'")

/-- The fault of using a value of the type named `typeName` as a key. -/
def Fault.unhashable (typeName : String) : Fault :=
  .typeError ("unhashable type: '" ++ typeName ++ "'")

/-- The fault of a membership test in a value that holds no members. -/
def Fault.notIterable (typeName : String) : Fault :=
  .typeError ("argument of type '" ++ typeName ++ "' is not iterable")

/-- The fault of matching a pattern against a value that is not text. -/
def Fault.notText (typeName : String) : Fault :=
  .typeError ("expected string or bytes-like object, got '" ++ typeName ++ "'")

/-- The fault of following a structure that holds itself into itself. -/
def Fault.endless : Fault :=
  .recursionError "maximum recursion depth exceeded"

/-- The fault of a scalar that names an impossible value; none for a text
    that is not a data document at all. -/
def Fault.ofData : Yaml.Error → Option Fault
  | .malformed => none
  | .value m => some (.valueError m)
  | .key m => some (.keyError m)
  | .attribute m => some (.attributeError m)
  | .index m => some (.indexError m)

end ChangeFilter
