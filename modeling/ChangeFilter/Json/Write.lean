import ChangeFilter.Value.Text

/-! # Writing JSON text

    `write` renders a value as JSON in a `Layout`: the separators between
    items and between a key and its value, and an optional indent that puts
    every item on its own line. Text keeps every character as is, a carried
    lone surrogate included, except the quote, the backslash and the control
    characters below U+0020, which are escaped (`\n`, `\t` and the like by
    name, the rest as `\u00xx`). Floats are
    written with the fewest digits that read back, non-finite ones as `NaN`,
    `Infinity` and `-Infinity`. -/

namespace ChangeFilter.Json

/-- The separators and indentation of a JSON text. -/
structure Layout where
  itemSep : String
  keySep : String
  indent : Option Nat

/-- No blanks at all: `[1,2]`, `{"a":1}`. -/
def compact : Layout := ⟨",", ":", none⟩

/-- Items on their own lines, indented by two spaces per level. -/
def indented : Layout := ⟨",", ": ", some 2⟩

/-- Floats in JSON: as in messages, with the JSON names of the non-finite values. -/
def floatStyle : Decimal.Style :=
  { Value.floatStyle with infinity := "Infinity", notANumber := "NaN" }

/-- The escape of one character inside a JSON string. -/
def escapeChar (c : Char) : String :=
  if c = '"' then "\\\""
  else if c = '\\' then "\\\\"
  else if c = '\n' then "\\n"
  else if c = '\r' then "\\r"
  else if c = '\t' then "\\t"
  else if c = '\x08' then "\\b"
  else if c = '\x0c' then "\\f"
  else if c.toNat < 0x20 then "\\u" ++ Value.hexPad 4 c.toNat
  else String.singleton c

/-- A JSON string literal. -/
def quote (s : String) : String :=
  "\"" ++ String.join (s.toList.map escapeChar) ++ "\""

/-- The text of a mapping key: text as is, and a scalar by its JSON text. -/
def keyText : Value → String
  | .str s => s
  | .null => "null"
  | .bool b => if b then "true" else "false"
  | .int n => toString n
  | .float x => Decimal.render floatStyle x
  | v => v.display

/-- Joins rendered items between brackets, on separate lines when indented. -/
def enclose (layout : Layout) (depth : Nat) (opening closing : String)
    (items : List String) : String :=
  if items.isEmpty then opening ++ closing
  else match layout.indent with
    | none => opening ++ layout.itemSep.intercalate items ++ closing
    | some n =>
      let inner := "\n" ++ String.ofList (List.replicate (n * (depth + 1)) ' ')
      let outer := "\n" ++ String.ofList (List.replicate (n * depth) ' ')
      opening ++ inner ++ (layout.itemSep ++ inner).intercalate items ++ outer ++ closing

/-- Renders a value as JSON at a nesting depth. -/
def writeAt (layout : Layout) (depth : Nat) : Value → String
  | .null => "null"
  | .bool b => if b then "true" else "false"
  | .int n => toString n
  | .float x => Decimal.render floatStyle x
  | .str s => quote s
  | .seq items => enclose layout depth "[" "]" (writeAll items)
  | .map entries => enclose layout depth "\x7b" "\x7d" (writeEntries entries)
  | v => quote v.display
where
  /-- Renders the items of a sequence. -/
  writeAll : List Value → List String
    | [] => []
    | v :: rest => writeAt layout (depth + 1) v :: writeAll rest
  /-- Renders the entries of a mapping. -/
  writeEntries : List (Value × Value) → List String
    | [] => []
    | (k, v) :: rest =>
      (quote (keyText k) ++ layout.keySep ++ writeAt layout (depth + 1) v) :: writeEntries rest

/-- Renders a value as JSON. -/
def write (layout : Layout) (v : Value) : String :=
  writeAt layout 0 v

end ChangeFilter.Json
