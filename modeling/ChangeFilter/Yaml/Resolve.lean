import ChangeFilter.Text.Blank

/-! # What an untagged YAML scalar means

    A plain scalar without a tag gets the tag of the first kind its text has:
    a boolean word of the schema, null (`~`, `null`, `Null`, `NULL` or
    nothing), an integer, a float, a timestamp, the merge key `<<`, the value
    key `=`, one of the indicators `!`, `&`, `*`; any other text is a string.

    The kinds follow YAML 1.1:

    * integers: `0b` binary, `0x` hexadecimal, a leading `0` octal, decimal,
      and base-60 numbers such as `190:20:30`, all with `_` allowed among the
      digits and an optional sign;
    * floats: a decimal point is required (`1.0e+3`, `.5`, `1.`), an exponent
      needs its sign, base 60 is allowed, and `.inf`, `-.inf`, `.nan` in three
      spellings each;
    * timestamps: `YYYY-MM-DD`, or a date with one- or two-digit month and
      day, a time `hh:mm:ss` after `T`, `t` or blanks, an optional fraction,
      and an optional zone `Z` or `±hh[:mm]`.

    A kind's pattern covers the whole text, save one final line feed that it
    may stop before; a text that starts with a line feed has no kind. Only a
    scalar tagged `!` in a quoted or block style can end in a line feed.

    A `Schema` fixes the boolean words: YAML 1.1 reads `yes`, `no`, `on` and
    `off` as booleans, while the filter schema reads only `true` and `false`
    in three spellings each. -/

namespace ChangeFilter.Yaml

/-- The prefix of the standard tags. -/
def stdTag (name : String) : String := "tag:yaml.org,2002:" ++ name

/-- The words a schema reads as booleans. -/
structure Schema where
  booleans : List String

/-- YAML 1.1: `yes`, `no`, `true`, `false`, `on`, `off` in three spellings. -/
def Schema.yaml11 : Schema :=
  ⟨["yes", "Yes", "YES", "no", "No", "NO", "true", "True", "TRUE", "false", "False", "FALSE",
    "on", "On", "ON", "off", "Off", "OFF"]⟩

/-- Filter documents: only `true` and `false`, so that `on`, `yes` and the like
    can name filters. -/
def Schema.filters : Schema :=
  ⟨["true", "True", "TRUE", "false", "False", "FALSE"]⟩

/-! ## Recognisers -/

/-- Drops one leading sign. -/
def dropSign : List Char → List Char
  | '-' :: rest => rest
  | '+' :: rest => rest
  | cs => cs

/-- Whether every character is in a set. -/
def allIn (set : String) (cs : List Char) : Bool :=
  cs.all (set.toList.contains ·)

/-- Decimal digits and underscores. -/
def digitsOrUnderscores : String := "0123456789_"

/-- A base-60 part after `:`: one digit, or two with the first at most 5. -/
def isSixtyPart : List Char → Bool
  | [d] => d.isDigit
  | [a, b] => '0' ≤ a && a ≤ '5' && b.isDigit
  | _ => false

/-- `[1-9][0-9_]*` followed by at least one `:` part (for integers), or
    `[0-9][0-9_]*` (for floats, `lead` false). -/
def isSixtyHead (strictLead : Bool) (cs : List Char) : Bool :=
  match cs.splitOn ':' with
  | first :: parts@(_ :: _) =>
    (match first with
      | d :: rest => (if strictLead then '1' ≤ d && d ≤ '9' else d.isDigit) &&
          allIn digitsOrUnderscores rest
      | [] => false) && parts.all isSixtyPart
  | _ => false

/-- Whether text is a YAML 1.1 integer. -/
def isIntText (cs : List Char) : Bool :=
  match dropSign cs with
  | '0' :: 'b' :: rest => !rest.isEmpty && allIn "01_" rest
  | '0' :: 'x' :: rest => !rest.isEmpty && allIn "0123456789abcdefABCDEF_" rest
  | '0' :: rest => allIn "01234567_" rest
  | body@(d :: rest) =>
    ('1' ≤ d && d ≤ '9' && allIn digitsOrUnderscores rest) || isSixtyHead true body
  | [] => false

/-- `[eE][-+][0-9]+` or nothing. -/
def isExponentOpt : List Char → Bool
  | [] => true
  | e :: s :: digits =>
    (e = 'e' || e = 'E') && (s = '-' || s = '+') && !digits.isEmpty && digits.all Char.isDigit
  | _ => false

/-- Whether text is a YAML 1.1 float. -/
def isFloatText (cs : List Char) : Bool :=
  let s := String.ofList cs
  -- `.nan` in its spellings has no sign
  if s = ".nan" || s = ".NaN" || s = ".NAN" then true
  else
    let body := dropSign cs
    let b := String.ofList body
    if b = ".inf" || b = ".Inf" || b = ".INF" then true
    else
      -- `\.[0-9][0-9_]*` with an exponent, and no sign
      let pointFirst := match cs with
        | '.' :: d :: rest =>
          d.isDigit && (let run := rest.takeWhile (digitsOrUnderscores.toList.contains ·)
                        isExponentOpt (rest.drop run.length))
        | _ => false
      -- `[0-9][0-9_]*\.[0-9_]*` with an exponent
      let decimal := match body with
        | d :: rest =>
          d.isDigit &&
            (let run := rest.takeWhile (digitsOrUnderscores.toList.contains ·)
             match rest.drop run.length with
             | '.' :: frac =>
               let frun := frac.takeWhile (digitsOrUnderscores.toList.contains ·)
               isExponentOpt (frac.drop frun.length)
             | _ => false)
        | [] => false
      -- base 60 with a fraction: `[0-9][0-9_]*(:[0-5]?[0-9])+\.[0-9_]*`
      let sixty := match body.reverse.dropWhile (digitsOrUnderscores.toList.contains ·) with
        | '.' :: headRev => isSixtyHead false headRev.reverse
        | _ => false
      pointFirst || decimal || sixty

/-- The parts of a timestamp. -/
structure Stamp where
  year : Nat
  month : Nat
  day : Nat
  shortDate : Bool
  time : Option (Nat × Nat × Nat × Option (List Char) × Option (Option (Bool × Nat × Nat)))

/-- A run of one or two digits, and the rest. -/
def oneOrTwo : List Char → Option (List Char × List Char)
  | a :: b :: rest => if a.isDigit then (if b.isDigit then some ([a, b], rest) else some ([a], b :: rest)) else none
  | [a] => if a.isDigit then some ([a], []) else none
  | [] => none

/-- The number a digit text spells. -/
def digitsNat (ds : List Char) : Nat :=
  ds.foldl (fun n d => 10 * n + (d.toNat - '0'.toNat)) 0

/-- The zone of a timestamp: blanks, then `Z` (UTC) or a sign with hours and
    optional minutes. `some none` is UTC. -/
def readZone (cs : List Char) : Option (Option (Option (Bool × Nat × Nat))) :=
  match cs with
  | [] => some none
  | _ =>
    match cs.dropWhile (fun c => c = ' ' || c = '\t') with
    | ['Z'] => some (some none)
    | s :: rest =>
      if s = '-' || s = '+' then
        match oneOrTwo rest with
        | some (h, []) => some (some (some (s = '-', digitsNat h, 0)))
        | some (h, [':', m1, m2]) =>
          if m1.isDigit && m2.isDigit then some (some (some (s = '-', digitsNat h, digitsNat [m1, m2])))
          else none
        | _ => none
      else none
    | [] => none

/-- Reads a timestamp: `YYYY-M[M]-D[D]`, optionally followed by a time after
    `T`, `t` or blanks, with optional fraction and zone. -/
def readStamp (cs : List Char) : Option Stamp := do
  let (y, rest) ← match cs with
    | a :: b :: c :: d :: '-' :: rest =>
      if [a, b, c, d].all Char.isDigit then some (digitsNat [a, b, c, d], rest) else none
    | _ => none
  let (m, rest) ← oneOrTwo rest
  let rest ← match rest with
    | '-' :: r => some r
    | _ => none
  let (d, rest) ← oneOrTwo rest
  let short := m.length = 2 && d.length = 2
  match rest with
  | [] => pure ⟨y, digitsNat m, digitsNat d, short, none⟩
  | sep :: _ =>
    let afterSep ← if sep = 'T' || sep = 't' then some (rest.drop 1)
      else if sep = ' ' || sep = '\t' then
        let r := rest.dropWhile (fun c => c = ' ' || c = '\t')
        some r
      else none
    let (hh, r) ← oneOrTwo afterSep
    let (mi, r) ← match r with
      | ':' :: a :: b :: r => if a.isDigit && b.isDigit then some ([a, b], r) else none
      | _ => none
    let (ss, r) ← match r with
      | ':' :: a :: b :: r => if a.isDigit && b.isDigit then some ([a, b], r) else none
      | _ => none
    let (frac, r) := match r with
      | '.' :: r => let f := r.takeWhile Char.isDigit; (some f, r.drop f.length)
      | _ => (none, r)
    let zone ← readZone r
    pure ⟨y, digitsNat m, digitsNat d, short, some (digitsNat hh, digitsNat mi, digitsNat ss, frac, zone)⟩

/-- Whether text is a timestamp the resolver recognises: a date with two-digit
    month and day, or a date with a time. -/
def isTimestampText (cs : List Char) : Bool :=
  match readStamp cs with
  | some st => st.time.isSome || st.shortDate
  | none => false

/-- The tag of an untagged plain scalar, or of a scalar tagged `!`. -/
def Schema.resolve (schema : Schema) (text : String) : String :=
  if text.startsWith "\n" then stdTag "str" else
  let text := Text.dropFinalLineFeed text
  let cs := text.toList
  if schema.booleans.contains text then stdTag "bool"
  else if ["", "~", "null", "Null", "NULL"].contains text then stdTag "null"
  else if isIntText cs then stdTag "int"
  else if isFloatText cs then stdTag "float"
  else if isTimestampText cs then stdTag "timestamp"
  else if text = "<<" then stdTag "merge"
  else if text = "=" then stdTag "value"
  else if text = "!" || text = "&" || text = "*" then stdTag "yaml"
  else stdTag "str"

end ChangeFilter.Yaml
