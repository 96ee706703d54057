import ChangeFilter.Yaml.Token
import ChangeFilter.Yaml.Resolve
import ChangeFilter.Value.Text
import ChangeFilter.Text.Number
import ChangeFilter.Text.Lower

/-! # The values of YAML scalars

    `scalarValue tag text` is the value of a scalar by its tag: `null`,
    `bool` (`yes`, `no`, `true`, `false`, `on`, `off` in any case), `int`,
    `float`, `binary` (base 64), `timestamp` and `str`. Any other tag makes the
    document unreadable.

    Numbers follow YAML 1.1 (see `Schema.resolve`); a timestamp with a time is
    a moment, and without one a date, both checked against the calendar. A
    scalar whose text breaks its tag's rules fails with the reader's own
    message. -/

namespace ChangeFilter.Yaml

/-! ## Numbers -/

/-- The message for integer text that cannot be read in a base. -/
def badIntMessage (base : Nat) (s : String) : String :=
  "invalid literal for int() with base " ++ toString base ++ ": " ++
    String.ofList ((Value.str s).literal.toList.take 200)

/-- Reads integer text in a base, or fails with the reader's message. -/
def readIntOr (s : String) (base : Nat) : Except Error Int :=
  match Text.parseInt s base with
  | .ok n => .ok n
  | .error .malformed => .error (.value (badIntMessage base s))
  | .error (.tooManyDigits d) => .error (.value (Text.longIntMessage d))

/-- Reads float text, or fails with the reader's message. -/
def readFloatOr (s : String) : Except Error Float :=
  match Text.readFloat s with
  | some x => .ok x
  | none => .error (.value ("could not convert string to float: " ++ (Value.str s).literal))

/-- The error of indexing empty text. -/
def emptyIndex : Error := .index "string index out of range"

/-- The integer of a scalar tagged `int`: underscores are dropped, a sign may
    lead, and `0b`, `0x`, a leading `0` and `:` select base 2, 16, 8 and 60. -/
def intOfText (text : String) : Except Error Int := do
  let cs := text.toList.filter (· ≠ '_')
  let c ← match cs with
    | c :: _ => pure c
    | [] => throw emptyIndex
  let sign : Int := if c = '-' then -1 else 1
  let v := if c = '-' || c = '+' then cs.drop 1 else cs
  let vs := String.ofList v
  if vs = "0" then pure 0
  else if vs.startsWith "0b" then pure (sign * (← readIntOr (String.ofList (v.drop 2)) 2))
  else if vs.startsWith "0x" then pure (sign * (← readIntOr (String.ofList (v.drop 2)) 16))
  else
    match v with
    | [] => throw emptyIndex
    | '0' :: _ => pure (sign * (← readIntOr vs 8))
    | _ =>
      if v.contains ':' then
        let digits ← (v.splitOn ':').mapM fun part => readIntOr (String.ofList part) 10
        let total := digits.reverse.foldl (fun (acc, base) d => (acc + d * base, base * 60)) ((0 : Int), (1 : Int))
        pure (sign * total.1)
      else pure (sign * (← readIntOr vs 10))

/-- The float of a scalar tagged `float`: underscores dropped, case ignored,
    `.inf` and `.nan`, and base 60 summed from the last part up. -/
def floatOfText (text : String) : Except Error Float := do
  let cs := (Text.lower text).toList.filter (· ≠ '_')
  let c ← match cs with
    | c :: _ => pure c
    | [] => throw emptyIndex
  let negative := c = '-'
  let v := if c = '-' || c = '+' then cs.drop 1 else cs
  let vs := String.ofList v
  let sign (x : Float) : Float := if negative then -x else x
  if vs = ".inf" then pure (sign (1.0 / 0.0))
  else if vs = ".nan" then pure (0.0 / 0.0)
  else if v.contains ':' then
    let digits ← (v.splitOn ':').mapM fun part => readFloatOr (String.ofList part)
    let total := digits.reverse.foldl
      (fun (acc, base) d => (acc + d * (Float.ofNat base), base * 60)) ((0.0 : Float), (1 : Nat))
    pure (sign total.1)
  else pure (sign (← readFloatOr vs))

/-- Whether a scalar tagged `float` is `.nan`: underscores dropped, case
    ignored and a sign allowed. All such scalars of a document are one NaN,
    so as mapping keys they are one key. -/
def namesNaN (text : String) : Bool :=
  let cs := (Text.lower text).toList.filter (· ≠ '_')
  let v := match cs with
    | c :: rest => if c = '-' || c = '+' then rest else cs
    | [] => []
  String.ofList v == ".nan"

/-! ## Byte strings -/

/-- The value of a base-64 character. -/
def base64Value (c : Char) : Option Nat :=
  if 'A' ≤ c && c ≤ 'Z' then some (c.toNat - 'A'.toNat)
  else if 'a' ≤ c && c ≤ 'z' then some (c.toNat - 'a'.toNat + 26)
  else if c.isDigit then some (c.toNat - '0'.toNat + 52)
  else if c = '+' then some 62
  else if c = '/' then some 63
  else none

/-- Decodes base 64, skipping characters outside the alphabet: a `=` ends the
    data once a quantum is complete, and data that ends inside a quantum is
    refused. -/
def base64Decode (cs : List Char) : Option (List Nat) :=
  go cs 0 0 0 []
where
  /-- `pos`: place in the quantum; `left`: its pending bits; `pads`: `=` seen. -/
  go : List Char → Nat → Nat → Nat → List Nat → Option (List Nat)
    | [], pos, _, _, out => if pos = 0 then some out.reverse else none
    | c :: rest, pos, left, pads, out =>
      if c = '=' then
        if pos ≥ 2 && pos + pads + 1 ≥ 4 then some out.reverse
        else go rest pos left (pads + 1) out
      else match base64Value c with
        | none => go rest pos left pads out
        | some v =>
          match pos with
          | 0 => go rest 1 v 0 out
          | 1 => go rest 2 (v % 16) 0 (((left * 4) + v / 16) % 256 :: out)
          | 2 => go rest 3 (v % 4) 0 (((left * 16) + v / 4) % 256 :: out)
          | _ => go rest 0 0 0 (((left * 64) + v) % 256 :: out)

/-! ## Timestamps -/

/-- The days of a month. -/
def daysInMonth (year month : Nat) : Nat :=
  if month = 2 then
    if (year % 4 = 0 && year % 100 ≠ 0) || year % 400 = 0 then 29 else 28
  else if month = 4 || month = 6 || month = 9 || month = 11 then 30
  else 31

/-- Checks a calendar date. -/
def checkDate (y m d : Nat) : Except Error Date := do
  if y < 1 || y > 9999 then throw (.value ("year " ++ toString y ++ " is out of range"))
  if m < 1 || m > 12 then throw (.value "month must be in 1..12")
  if d < 1 || d > daysInMonth y m then throw (.value "day is out of range for month")
  pure ⟨y, m, d⟩

/-- The value of a scalar tagged `timestamp`. -/
def stampOfText (text : String) : Except Error Value := do
  let st ← match readStamp (Text.dropFinalLineFeed text).toList with
    | some st => pure st
    | none => throw (.attribute "'NoneType' object has no attribute 'groupdict'")
  match st.time with
  | none => pure (.date (← checkDate st.year st.month st.day))
  | some (h, mi, s, frac, zone) =>
    let micro := match frac with
      | some f => digitsNat ((f.take 6) ++ List.replicate (6 - (f.take 6).length) '0')
      | none => 0
    let offset ← match zone with
      | none => pure none
      | some none => pure (some 0)
      | some (some (neg, zh, zm)) =>
        let secs : Int := (zh * 3600 + zm * 60 : Nat)
        let off := if neg then -secs else secs
        if off ≤ -86400 || off ≥ 86400 then
          throw (.value ("offset must be a timedelta strictly between -timedelta(hours=24) and " ++
            "timedelta(hours=24), not " ++ spanLiteral off ++ "."))
        pure (some off)
    let date ← checkDate st.year st.month st.day
    if h > 23 then throw (.value "hour must be in 0..23")
    if mi > 59 then throw (.value "minute must be in 0..59")
    if s > 59 then throw (.value "second must be in 0..59")
    pure (.moment ⟨date, h, mi, s, micro, offset⟩)

/-! ## Scalars by tag -/

/-- The value of a scalar by its tag. -/
def scalarValue (tag text : String) : Except Error Value :=
  if tag = stdTag "str" then pure (.str text)
  else if tag = stdTag "null" then pure .null
  else if tag = stdTag "bool" then
    let w := Text.lower text
    match [("yes", true), ("no", false), ("true", true), ("false", false), ("on", true),
        ("off", false)].lookup w with
    | some b => pure (.bool b)
    | none => throw (.key (Value.str w).literal)
  else if tag = stdTag "int" then Value.int <$> intOfText text
  else if tag = stdTag "float" then Value.float <$> floatOfText text
  else if tag = stdTag "binary" then
    if !text.toList.all (·.toNat < 128) then throw .malformed
    else match base64Decode text.toList with
      | some bytes => pure (.bytes bytes)
      | none => throw .malformed
  else if tag = stdTag "timestamp" then stampOfText text
  else throw .malformed

end ChangeFilter.Yaml
