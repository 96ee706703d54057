import ChangeFilter.Text.Blank
import ChangeFilter.Text.Digit

/-! # Reading numbers from text

    `readInt s base` reads an integer the way a general-purpose reader of
    integer text does: blanks around it other than the information separators
    are dropped, a sign may lead, a base prefix (`0x`, `0o`, `0b`) may follow
    for bases 16, 8 and 2, digits of any script count with their decimal
    value, letters count as digits from ten up, and a single underscore may
    stand between two digits (or after the prefix). `readFloat` reads a decimal float likewise: digits with an
    optional fraction and exponent, or `inf`, `infinity` and `nan` in any case.

    Both answer `none` for text they refuse. -/

namespace ChangeFilter.Text

/-- The value of a digit character in bases up to 36. -/
def digitOf (c : Char) : Option Nat :=
  match digitValue? c with
  | some d => some d
  | none =>
    if 'a' ≤ c && c ≤ 'z' then some (c.toNat - 'a'.toNat + 10)
    else if 'A' ≤ c && c ≤ 'Z' then some (c.toNat - 'A'.toNat + 10)
    else none

/-- Reads digits in a base with single underscores between them; `lead` says
    whether an underscore may come first (after a base prefix). -/
def readDigits (base : Nat) (lead : Bool) (cs : List Char) : Option Nat :=
  go cs lead false 0 false
where
  /-- `underscoreOk`: an underscore may come next; `any`: a digit was read. -/
  go : List Char → Bool → Bool → Nat → Bool → Option Nat
    | [], _, afterUnderscore, acc, any => if any && !afterUnderscore then some acc else none
    | c :: rest, underscoreOk, _, acc, any =>
      if c = '_' then
        if underscoreOk then go rest false true acc any else none
      else match digitOf c with
        | some d => if d < base then go rest true false (acc * base + d) true else none
        | none => none

/-- Splits a leading sign off. -/
def splitSign : List Char → Bool × List Char
  | '-' :: rest => (true, rest)
  | '+' :: rest => (false, rest)
  | cs => (false, cs)

/-- The most digits that integer text in a base other than a power of two
    may have; longer text is refused, to bound the work of reading it. -/
def maxIntDigits : Nat := 4300

/-- The message for integer text with too many digits. -/
def longIntMessage (digits : Nat) : String :=
  "Exceeds the limit (" ++ toString maxIntDigits ++
    " digits) for integer string conversion: value has " ++ toString digits ++
    " digits; use sys.set_int_max_str_digits() to increase the limit"

/-- Why integer text is refused. -/
inductive IntTextError where
  /-- The text is no integer in the base. -/
  | malformed
  /-- The text is an integer with more than `maxIntDigits` digits. -/
  | tooManyDigits (digits : Nat)
  deriving Inhabited, DecidableEq

/-- Whether a base is a power of two. -/
def powerOfTwo (base : Nat) : Bool :=
  base > 0 && base &&& (base - 1) == 0

/-- Whether the underscores of a run of digits and underscores are placed as
    integer text allows: never two together, none last, and none first unless
    `lead` (after a base prefix). -/
def underscoresPlaced (lead : Bool) (run : List Char) : Bool :=
  (lead || run.head? != some '_') && run.getLast? != some '_' &&
    !(run.zip (run.drop 1)).any (fun (a, b) => a = '_' && b = '_')

/-- Reads an integer in base 2 to 36 (see the module note). Unless the base is
    a power of two, text whose leading run of digits has more than
    `maxIntDigits` digits is refused as too long, before the rest of the text
    is checked. -/
def parseInt (s : String) (base : Nat) : Except IntTextError Int :=
  let cs := (trimNumberBlank s).toList
  let (neg, body) := splitSign cs
  let prefixed := match body with
    | '0' :: c :: rest =>
      if (base = 16 && (c = 'x' || c = 'X')) || (base = 8 && (c = 'o' || c = 'O')) ||
          (base = 2 && (c = 'b' || c = 'B')) then some rest else none
    | _ => none
  let (digits, value) := match prefixed with
    | some rest => (rest, readDigits base true rest)
    | none => (body, readDigits base false body)
  let run := digits.takeWhile fun c => c = '_' || (digitOf c).any (· < base)
  let count := (run.filter (· ≠ '_')).length
  if underscoresPlaced prefixed.isSome run && !powerOfTwo base && count > maxIntDigits then
    .error (.tooManyDigits count)
  else match value with
    | none => .error .malformed
    | some n => .ok (if neg then -(n : Int) else n)

/-- Reads an integer in base 2 to 36, as `parseInt` does; `none` for text it
    refuses. -/
def readInt (s : String) (base : Nat) : Option Int :=
  (parseInt s base).toOption

/-- Digits, optionally with underscores between them, as a digit text. -/
def readDigitRun (cs : List Char) : List Char × List Char :=
  let run := cs.takeWhile fun c => c = '_' || (digitValue? c).isSome
  (run, cs.drop run.length)

/-- Whether a run of digits and underscores is well formed: not empty, and
    every underscore between two digits. -/
def wellFormedRun (run : List Char) : Bool :=
  !run.isEmpty && run.head? != some '_' && run.getLast? != some '_' &&
    !(run.zip (run.drop 1)).any (fun (a, b) => a = '_' && b = '_')

/-- The value of a well-formed digit run. -/
def runValue (run : List Char) : Nat :=
  run.foldl (fun acc c => match digitValue? c with
    | some d => acc * 10 + d
    | none => acc) 0

/-- The float nearest to `m · 10^e`. Beyond the range of floats the answer is
    infinity or zero without computing the power. -/
def scientific (m : Nat) (e : Int) : Float :=
  let digits : Int := (toString m).length
  if m = 0 then 0.0
  else if e + digits > 400 then 1.0 / 0.0
  else if e + digits < -400 then 0.0
  else if e < 0 then Float.ofScientific m true e.natAbs
  else Float.ofScientific m false e.toNat

/-- Reads a decimal float (see the module note). -/
def readFloat (s : String) : Option Float :=
  let cs := (trimNumberBlank s).toList
  let (neg, body) := splitSign cs
  let word := String.ofList (body.map Char.toLower)
  let sign (x : Float) : Float := if neg then -x else x
  if word = "inf" || word = "infinity" then some (sign (1.0 / 0.0))
  else if word = "nan" then some (0.0 / 0.0)
  else
    let (intRun, rest) := readDigitRun body
    let (fracRun, rest) := match rest with
      | '.' :: r => readDigitRun r
      | _ => ([], rest)
    let intOk := intRun.isEmpty || wellFormedRun intRun
    let fracOk := fracRun.isEmpty || wellFormedRun fracRun
    if !intOk || !fracOk || (intRun.isEmpty && fracRun.isEmpty) then none
    else
      let expPart : Option (Option Int) := match rest with
        | [] => some (some 0)
        | e :: r =>
          if e = 'e' || e = 'E' then
            let (eneg, digits) := splitSign r
            if wellFormedRun digits && digits.all (fun c => c = '_' || (digitValue? c).isSome) then
              let v : Int := runValue digits
              some (some (if eneg then -v else v))
            else some none
          else some none
      match expPart with
      | some (some ex) =>
        let m := runValue (intRun ++ fracRun)
        let e : Int := ex - ((fracRun.filter (· ≠ '_')).length : Int)
        some (sign (scientific m e))
      | _ => none

end ChangeFilter.Text
