import ChangeFilter.Value.Basic
import ChangeFilter.Decimal.Notation
import ChangeFilter.Text.Printable
import ChangeFilter.Text.Surrogate

/-! # Values as text

    Messages show values in two forms. The *literal* form is how the value is
    written as a literal: text in single quotes (double quotes when it holds a
    single quote and no double quote), with escapes for the backslash, the
    quote, tab, line feed, carriage return and any character that is not
    printable; `None`, `True` and `False`; sequences in brackets, mappings and
    sets in braces, tuples in parentheses; dates and moments as constructor
    calls; a container come round again as `[...]` or `{...}`. The *display* form is the literal form, except that text is shown
    bare and dates and moments in ISO notation.

    `kind` names the type of a value for messages: `null`, `boolean`, `number`,
    `string`, `array`, `object`, and the type's own name for the rest. -/

namespace ChangeFilter

/-- Zero-padded decimal digits. -/
def pad (width n : Nat) : String :=
  Decimal.padLeft width (toString n)

/-- A date in ISO notation, `YYYY-MM-DD`. -/
def Date.iso (d : Date) : String :=
  pad 4 d.year ++ "-" ++ pad 2 d.month ++ "-" ++ pad 2 d.day

/-- An offset from UTC as `+HH:MM`, with `:SS` when it has seconds. -/
def offsetText (off : Int) : String :=
  let sign := if off < 0 then "-" else "+"
  let a := off.natAbs
  let base := sign ++ pad 2 (a / 3600) ++ ":" ++ pad 2 (a % 3600 / 60)
  if a % 60 = 0 then base else base ++ ":" ++ pad 2 (a % 60)

/-- A moment in ISO notation with a space between date and time. -/
def Moment.iso (m : Moment) : String :=
  m.date.iso ++ " " ++ pad 2 m.hour ++ ":" ++ pad 2 m.minute ++ ":" ++ pad 2 m.second ++
    (if m.micro = 0 then "" else "." ++ pad 6 m.micro) ++
    (match m.offset with
     | some off => offsetText off
     | none => "")

/-- A span of seconds as a constructor call with days and seconds. -/
def spanLiteral (secs : Int) : String :=
  let days := secs.fdiv 86400
  let rest := secs.fmod 86400
  let parts := (if days ≠ 0 then ["days=" ++ toString days] else []) ++
    (if rest ≠ 0 then ["seconds=" ++ toString rest] else [])
  "datetime.timedelta(" ++ (if parts.isEmpty then "0" else ", ".intercalate parts) ++ ")"

/-- A zone offset as a constructor call; zero offset is the UTC zone. -/
def zoneLiteral (off : Int) : String :=
  if off = 0 then "datetime.timezone.utc"
  else "datetime.timezone(" ++ spanLiteral off ++ ")"

/-- A date as a constructor call. -/
def Date.literal (d : Date) : String :=
  "datetime.date(" ++ ", ".intercalate [toString d.year, toString d.month, toString d.day] ++ ")"

/-- A moment as a constructor call; a zero microsecond is left out, and then a
    zero second too. -/
def Moment.literal (m : Moment) : String :=
  let fields := [m.date.year, m.date.month, m.date.day, m.hour, m.minute]
  let tail := if m.micro ≠ 0 then [m.second, m.micro]
    else if m.second ≠ 0 then [m.second] else []
  let zone := match m.offset with
    | some off => ", tzinfo=" ++ zoneLiteral off
    | none => ""
  "datetime.datetime(" ++ ", ".intercalate ((fields ++ tail).map toString) ++ zone ++ ")"

namespace Value

/-- Floats are written with the fewest digits that read back, positionally
    when the point falls within 16 digits of the start and not more than four
    places to the left of it, and otherwise with an exponent of at least two
    digits and a sign; an integral value keeps `.0`. -/
def floatStyle : Decimal.Style :=
  { expBelow := -4, expAbove := 16, pointZero := true, expMark := "e", expPlus := true,
    expDigits := 2, infinity := "inf", notANumber := "nan" }

/-- Lower-case hexadecimal digits of `n`, padded with zeros to `width`. -/
def hexPad (width n : Nat) : String :=
  Decimal.padLeft width (String.ofList (Nat.toDigits 16 n))

/-- The escape of one character inside quoted text with quote `q`. -/
def escapeChar (q : Char) (c : Char) : String :=
  if c = q ∨ c = '\\' then "\\" ++ String.singleton c
  else if c = '\t' then "\\t"
  else if c = '\n' then "\\n"
  else if c = '\r' then "\\r"
  else if c.toNat < 0x20 ∨ c.toNat = 0x7F then "\\x" ++ hexPad 2 c.toNat
  else if let some n := Text.surrogate? c then "\\u" ++ hexPad 4 n
  else if c.toNat < 0x80 ∨ Text.isPrintable c then String.singleton c
  else if c.toNat ≤ 0xFF then "\\x" ++ hexPad 2 c.toNat
  else if c.toNat ≤ 0xFFFF then "\\u" ++ hexPad 4 c.toNat
  else "\\U" ++ hexPad 8 c.toNat

/-- The quote of a quoted text: a double quote when the text holds a single
    quote and no double quote, and a single quote otherwise. -/
def quoteFor (cs : List Char) : Char :=
  if cs.contains '\'' ∧ !cs.contains '"' then '"' else '\''

/-- Text in quotes with escapes. -/
def quoteText (s : String) : String :=
  let q := quoteFor s.toList
  String.singleton q ++ String.join (s.toList.map (escapeChar q)) ++ String.singleton q

/-- A byte string as a quoted literal with a `b` prefix. -/
def quoteBytes (data : List Nat) : String :=
  let cs := data.map Char.ofNat
  let q := quoteFor cs
  let one (n : Nat) : String :=
    if n = q.toNat ∨ n = 0x5C then "\\" ++ String.singleton (Char.ofNat n)
    else if n = 9 then "\\t"
    else if n = 10 then "\\n"
    else if n = 13 then "\\r"
    else if n < 0x20 ∨ n ≥ 0x7F then "\\x" ++ hexPad 2 n
    else String.singleton (Char.ofNat n)
  "b" ++ String.singleton q ++ String.join (data.map one) ++ String.singleton q

/-- The literal form of a value. -/
def literal : Value → String
  | .null => "None"
  | .bool b => if b then "True" else "False"
  | .int n => toString n
  | .float x => Decimal.render floatStyle x
  | .str s => quoteText s
  | .seq items => "[" ++ ", ".intercalate (literalAll items) ++ "]"
  | .map entries => "\x7b" ++ ", ".intercalate (literalEntries entries) ++ "\x7d"
  | .date d => d.literal
  | .moment m => m.literal
  | .bytes data => quoteBytes data
  | .set items =>
    if items.isEmpty then "set()" else "\x7b" ++ ", ".intercalate (literalAll items) ++ "\x7d"
  | .tuple items =>
    match literalAll items with
    | [t] => "(" ++ t ++ ",)"
    | ts => "(" ++ ", ".intercalate ts ++ ")"
  | .back _ mapping => if mapping then "\x7b...\x7d" else "[...]"
where
  /-- The literal forms of a list of values. -/
  literalAll : List Value → List String
    | [] => []
    | v :: rest => literal v :: literalAll rest
  /-- The literal forms of mapping entries, `key: value`. -/
  literalEntries : List (Value × Value) → List String
    | [] => []
    | (k, v) :: rest => (literal k ++ ": " ++ literal v) :: literalEntries rest

/-- The display form of a value: text bare, dates and moments in ISO notation,
    and the literal form otherwise. -/
def display : Value → String
  | .str s => s
  | .date d => d.iso
  | .moment m => m.iso
  | v => v.literal

/-- The name of a value's type in messages. -/
def kind : Value → String
  | .null => "null"
  | .bool _ => "boolean"
  | .int _ | .float _ => "number"
  | .str _ => "string"
  | .seq _ => "array"
  | .map _ => "object"
  | .date _ => "date"
  | .moment _ => "datetime"
  | .bytes _ => "bytes"
  | .set _ => "set"
  | .tuple _ => "tuple"
  | .back _ mapping => if mapping then "object" else "array"

/-- The name of a value's type in messages about operations it lacks. -/
def typeName : Value → String
  | .null => "NoneType"
  | .bool _ => "bool"
  | .int _ => "int"
  | .float _ => "float"
  | .str _ => "str"
  | .seq _ => "list"
  | .map _ => "dict"
  | .date _ => "datetime.date"
  | .moment _ => "datetime.datetime"
  | .bytes _ => "bytes"
  | .set _ => "set"
  | .tuple _ => "tuple"
  | .back _ mapping => if mapping then "dict" else "list"

end Value

end ChangeFilter
