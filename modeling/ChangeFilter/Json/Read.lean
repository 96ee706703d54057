import ChangeFilter.Value.Basic
import ChangeFilter.Text.Number
import ChangeFilter.Text.Surrogate

/-! # Reading JSON text

    `read` turns JSON text into a `Value`. Numbers without a fraction or an
    exponent are integers, refused when they have more than
    `Text.maxIntDigits` digits, and the others floats rounded to the nearest
    binary64 value. `NaN`, `Infinity` and `-Infinity` are read as
    floats. An object's later duplicate key replaces the value and keeps the
    first place. Text escapes follow JSON: a `\u` pair of surrogates is one
    character, and a surrogate alone is carried as `Text.ofSurrogate` says. Only space, tab, line feed and carriage return are blank.

    Nesting is bounded by a fuel argument worth twice the text's length, which
    no accepted text exhausts. -/

namespace ChangeFilter.Json

/-- Why a JSON text was refused. -/
inductive ReadError where
  /-- The text is no JSON; the offset, counted from the end, where reading
      stopped. -/
  | malformed (remaining : Nat)
  /-- An integer has more than `Text.maxIntDigits` digits. -/
  | tooManyDigits (digits : Nat)
  deriving Repr

/-- Whether a character is JSON blank. -/
def isBlank (c : Char) : Bool :=
  c = ' ' || c = '\t' || c = '\n' || c = '\r'

/-- The value of a hexadecimal digit. -/
def hexDigit? (c : Char) : Option Nat :=
  if '0' ≤ c ∧ c ≤ '9' then some (c.toNat - '0'.toNat)
  else if 'a' ≤ c ∧ c ≤ 'f' then some (c.toNat - 'a'.toNat + 10)
  else if 'A' ≤ c ∧ c ≤ 'F' then some (c.toNat - 'A'.toNat + 10)
  else none

/-- The value of four hexadecimal digits. -/
def hex4? (a b c d : Char) : Option Nat := do
  let a ← hexDigit? a
  let b ← hexDigit? b
  let c ← hexDigit? c
  let d ← hexDigit? d
  pure (((a * 16 + b) * 16 + c) * 16 + d)

/-- The character of a simple escape. -/
def simpleEscape? : Char → Option Char
  | '"' => some '"'
  | '\\' => some '\\'
  | '/' => some '/'
  | 'b' => some '\x08'
  | 'f' => some '\x0c'
  | 'n' => some '\n'
  | 'r' => some '\r'
  | 't' => some '\t'
  | _ => none

/-- Reads the rest of a string after its opening quote; `acc` holds the
    characters read so far, newest first. -/
def readString : List Char → List Char → Except ReadError (String × List Char)
  | [], _ => .error (.malformed 0)
  | '"' :: rest, acc => .ok (String.ofList acc.reverse, rest)
  | '\\' :: 'u' :: a :: b :: c :: d :: rest, acc =>
    match hex4? a b c d with
    | none => .error (.malformed rest.length)
    | some hi =>
      if 0xD800 ≤ hi ∧ hi < 0xDC00 then
        match _hr : rest with
        | '\\' :: 'u' :: e :: f :: g :: h :: rest' =>
          match hex4? e f g h with
          | some lo =>
            if 0xDC00 ≤ lo ∧ lo < 0xE000 then
              readString rest' (Char.ofNat (0x10000 + (hi - 0xD800) * 0x400 + (lo - 0xDC00)) :: acc)
            else readString rest (Text.ofSurrogate hi :: acc)
          | none => .error (.malformed rest.length)
        | _ => readString rest (Text.ofSurrogate hi :: acc)
      else if 0xDC00 ≤ hi ∧ hi < 0xE000 then readString rest (Text.ofSurrogate hi :: acc)
      else readString rest (Char.ofNat hi :: acc)
  | '\\' :: e :: rest, acc =>
    match simpleEscape? e with
    | some c => readString rest (c :: acc)
    | none => .error (.malformed rest.length)
  | c :: rest, acc =>
    if c.toNat < 0x20 then .error (.malformed rest.length) else readString rest (c :: acc)
termination_by cs => cs.length
decreasing_by
  all_goals
    try subst _hr
    simp only [List.length_cons]
    omega

/-- Splits off the leading ASCII digits. -/
def digits (cs : List Char) : List Char × List Char :=
  (cs.takeWhile Char.isDigit, cs.dropWhile Char.isDigit)

/-- The number written by decimal digits. -/
def digitsValue (ds : List Char) : Nat :=
  ds.foldl (fun n d => 10 * n + (d.toNat - '0'.toNat)) 0

/-- Reads a number: an optional minus, an integer part without leading zeros,
    an optional fraction and an optional exponent. -/
def readNumber (cs : List Char) : Except ReadError (Value × List Char) :=
  let (neg, cs1) := match cs with
    | '-' :: r => (true, r)
    | _ => (false, cs)
  let (intPart, cs2) := match cs1 with
    | '0' :: r => (['0'], r)
    | _ => digits cs1
  if intPart.isEmpty then .error (.malformed cs.length)
  else
    let (frac, cs3) := match cs2 with
      | '.' :: r =>
        let (f, r') := digits r
        if f.isEmpty then ([], cs2) else (f, r')
      | _ => ([], cs2)
    let (expo, cs4) := match cs3 with
      | e :: r =>
        if e = 'e' ∨ e = 'E' then
          let (eneg, r1) := match r with
            | '-' :: r' => (true, r')
            | '+' :: r' => (false, r')
            | _ => (false, r)
          let (ed, r2) := digits r1
          if ed.isEmpty then (none, cs3) else (some (eneg, digitsValue ed), r2)
        else (none, cs3)
      | [] => (none, cs3)
    let sawPoint := match cs2 with
      | '.' :: _ => !frac.isEmpty
      | _ => false
    if !sawPoint ∧ expo.isNone then
      if Text.maxIntDigits < intPart.length then .error (.tooManyDigits intPart.length)
      else
        let n : Int := digitsValue intPart
        .ok (.int (if neg then -n else n), cs4)
    else
      let m := digitsValue (intPart ++ frac)
      let e : Int := (match expo with
        | some (true, v) => -(v : Int)
        | some (false, v) => v
        | none => 0) - frac.length
      let x := Text.scientific m e
      .ok (.float (if neg then -x else x), cs4)

mutual
/-- Reads one value after blanks. -/
def readValue : Nat → List Char → Except ReadError (Value × List Char)
  | 0, cs => .error (.malformed cs.length)
  | fuel + 1, cs =>
    match cs.dropWhile isBlank with
    | '{' :: rest =>
      match rest.dropWhile isBlank with
      | '}' :: rest' => .ok (.map [], rest')
      | rest' => readMembers fuel rest' []
    | '[' :: rest =>
      match rest.dropWhile isBlank with
      | ']' :: rest' => .ok (.seq [], rest')
      | rest' => readItems fuel rest' []
    | '"' :: rest => (readString rest []).map fun (s, r) => (.str s, r)
    | 'n' :: 'u' :: 'l' :: 'l' :: rest => .ok (.null, rest)
    | 't' :: 'r' :: 'u' :: 'e' :: rest => .ok (.bool true, rest)
    | 'f' :: 'a' :: 'l' :: 's' :: 'e' :: rest => .ok (.bool false, rest)
    | 'N' :: 'a' :: 'N' :: rest => .ok (.float (0.0 / 0.0), rest)
    | 'I' :: 'n' :: 'f' :: 'i' :: 'n' :: 'i' :: 't' :: 'y' :: rest => .ok (.float (1.0 / 0.0), rest)
    | '-' :: 'I' :: 'n' :: 'f' :: 'i' :: 'n' :: 'i' :: 't' :: 'y' :: rest =>
      .ok (.float (-1.0 / 0.0), rest)
    | cs' => readNumber cs'

/-- Reads array items up to the closing bracket; `acc` holds them newest first. -/
def readItems : Nat → List Char → List Value → Except ReadError (Value × List Char)
  | 0, cs, _ => .error (.malformed cs.length)
  | fuel + 1, cs, acc => do
    let (v, rest) ← readValue fuel cs
    match rest.dropWhile isBlank with
    | ',' :: rest' => readItems fuel rest' (v :: acc)
    | ']' :: rest' => .ok (.seq (v :: acc).reverse, rest')
    | rest' => .error (.malformed rest'.length)

/-- Reads object members up to the closing brace. -/
def readMembers : Nat → List Char → List (Value × Value) → Except ReadError (Value × List Char)
  | 0, cs, _ => .error (.malformed cs.length)
  | fuel + 1, cs, acc =>
    match cs.dropWhile isBlank with
    | '"' :: rest => do
      let (k, rest1) ← readString rest []
      match rest1.dropWhile isBlank with
      | ':' :: rest2 => do
        let (v, rest3) ← readValue fuel rest2
        let acc' := Value.insertEntry acc (.str k) v
        match rest3.dropWhile isBlank with
        | ',' :: rest4 => readMembers fuel rest4 acc'
        | '}' :: rest4 => .ok (.map acc', rest4)
        | rest4 => .error (.malformed rest4.length)
      | rest2 => .error (.malformed rest2.length)
    | rest => .error (.malformed rest.length)
end

/-- Reads a whole JSON text; only blanks may follow the value. -/
def read (s : String) : Except ReadError Value := do
  let cs := s.toList
  let (v, rest) ← readValue (2 * cs.length + 4) cs
  match rest.dropWhile isBlank with
  | [] => .ok v
  | rest' => .error (.malformed rest'.length)

end ChangeFilter.Json
