import ChangeFilter.Decimal.Shortest

/-! # Values of a data document

    Filter documents, configuration files, pull-request files and requests are
    trees of `Value`s: null, booleans, integers of any size, binary64 floats,
    text, sequences and mappings, and the extra scalars a data document can
    carry (dates, moments, byte strings, sets and tuples).

    A document may hold a container inside itself. Such a value is a tree all
    the same: where the container comes round again, the tree has
    `back d m`, naming the container `d` levels above that place (`0` for
    the innermost one around it), a mapping when `m` holds and a sequence
    otherwise.

    A mapping is a list of entries in insertion order. Keys are compared as
    values: numbers by their numeric value across booleans, integers and floats
    (so `1`, `1.0` and `true` are one key), a NaN equal to nothing, and moments
    with a zone by their instant. Writing a key that is already present keeps
    the first key and its position, with the new value. -/

namespace ChangeFilter

/-- A calendar date. -/
structure Date where
  year : Nat
  month : Nat
  day : Nat
  deriving DecidableEq, Repr

/-- A date with a time of day to the microsecond, and an optional offset from
    UTC in seconds. -/
structure Moment where
  date : Date
  hour : Nat
  minute : Nat
  second : Nat
  micro : Nat
  offset : Option Int
  deriving DecidableEq, Repr

/-- A node of a data document. -/
inductive Value where
  | null
  | bool (b : Bool)
  | int (n : Int)
  | float (x : Float)
  | str (s : String)
  | seq (items : List Value)
  | map (entries : List (Value × Value))
  | date (d : Date)
  | moment (m : Moment)
  | bytes (data : List Nat)
  | set (items : List Value)
  | tuple (items : List Value)
  /-- The container `depth` levels above this place, come round again: a
      mapping when `mapping` holds, else a sequence. -/
  | back (depth : Nat) (mapping : Bool)
  deriving Inhabited

/-- The microseconds from a fixed origin to a moment, in UTC when it has an
    offset; moments with offsets are equal when these agree. -/
def Moment.utcMicros (m : Moment) : Int :=
  let y : Int := m.date.year
  -- days from the civil date (proleptic Gregorian calendar)
  let a : Int := if m.date.month ≤ 2 then 1 else 0
  let yy := y - a
  let mm : Int := (m.date.month : Int) + 12 * a - 3
  let days := 365 * yy + yy.fdiv 4 - yy.fdiv 100 + yy.fdiv 400 + (153 * mm + 2) / 5 + m.date.day
  let secs := days * 86400 + m.hour * 3600 + m.minute * 60 + m.second - m.offset.getD 0
  secs * 1000000 + m.micro

namespace Value

/-- The numeric value of a float as a fraction `num / 2^k`, when finite. -/
def floatFraction (x : Float) : Option (Int × Nat) :=
  match Decimal.classify x with
  | .finite b =>
    let n : Int := if b.negative then -(b.mantissa : Int) else b.mantissa
    if b.exponent ≥ 0 then some (n * Int.pow 2 b.exponent.toNat, 0)
    else some (n, (-b.exponent).toNat)
  | _ => none

/-- Whether a float has exactly the value of an integer. -/
def floatIsInt (x : Float) (n : Int) : Bool :=
  match floatFraction x with
  | some (num, k) => num == n * Int.pow 2 k
  | none => false

/-- The numeric reading of a boolean, integer or float. -/
inductive Numeric where
  | exact (n : Int)
  | inexact (x : Float)

/-- Reads booleans, integers and floats as numbers. -/
def numeric? : Value → Option Numeric
  | .bool b => some (.exact (if b then 1 else 0))
  | .int n => some (.exact n)
  | .float x => some (.inexact x)
  | _ => none

/-- Numeric equality across integers and floats. -/
def Numeric.same : Numeric → Numeric → Bool
  | .exact a, .exact b => a == b
  | .exact a, .inexact x => floatIsInt x a
  | .inexact x, .exact a => floatIsInt x a
  | .inexact x, .inexact y => x == y

mutual
/-- Whether two values are the same mapping key. -/
def sameKey : Value → Value → Bool
  | .null, .null => true
  | .str a, .str b => a == b
  | .date a, .date b => a == b
  | .moment a, .moment b =>
    match a.offset, b.offset with
    | none, none => a == b
    | some _, some _ => a.utcMicros == b.utcMicros
    | _, _ => false
  | .bytes a, .bytes b => a == b
  | .tuple as, .tuple bs => sameKeys as bs
  | a, b =>
    match a.numeric?, b.numeric? with
    | some x, some y => x.same y
    | _, _ => false

/-- Elementwise `sameKey`. -/
def sameKeys : List Value → List Value → Bool
  | [], [] => true
  | a :: as, b :: bs => sameKey a b && sameKeys as bs
  | _, _ => false
end

/-- Whether a value can be a mapping key: sequences, mappings and sets cannot,
    nor a tuple that holds one, nor a container come round again. -/
def hashable : Value → Bool
  | .seq _ | .map _ | .set _ | .back _ _ => false
  | .tuple items => hashableAll items
  | _ => true
where
  /-- Whether every item is hashable. -/
  hashableAll : List Value → Bool
    | [] => true
    | v :: rest => hashable v && hashableAll rest

/-- Writes `v` under `k`: an entry with the same key keeps its key and place and
    takes the new value; otherwise the entry is added at the end. -/
def insertEntry (entries : List (Value × Value)) (k v : Value) : List (Value × Value) :=
  if entries.any (fun e => sameKey e.1 k) then
    entries.map fun e => if sameKey e.1 k then (e.1, v) else e
  else entries ++ [(k, v)]

/-- The value under a text key. -/
def lookupText (entries : List (Value × Value)) (k : String) : Option Value :=
  (entries.find? fun e => sameKey e.1 (.str k)).map (·.2)

/-- The value of a mapping under a text key. -/
def get? : Value → String → Option Value
  | .map entries, k => lookupText entries k
  | _, _ => none

/-- Whether a value counts as true: `null`, `false`, zero, and empty text,
    sequences, mappings, sets, tuples and byte strings count as false. A
    container come round again holds at least the place it is met at. -/
def truthy : Value → Bool
  | .null => false
  | .bool b => b
  | .int n => n != 0
  | .float x => x != 0
  | .str s => !s.isEmpty
  | .seq items | .set items | .tuple items => !items.isEmpty
  | .map entries => !entries.isEmpty
  | .bytes data => !data.isEmpty
  | .date _ | .moment _ => true
  | .back _ _ => true

end Value

end ChangeFilter
