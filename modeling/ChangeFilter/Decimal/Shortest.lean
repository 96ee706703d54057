/-! # Shortest decimal digits of a binary64 value

    A finite binary64 value is `m · 2^q`. The reals that read back as it form an
    interval around it: half a step to each neighbour, with a lower step half as
    wide at the bottom of a binade, and with both ends included exactly when `m`
    is even (a tie reads back to the even significand).

    `shortest` tries 1, 2, … 17 significant digits. For each count it takes the
    two multiples of the grid `10^e` next to the value; the first count with a
    multiple inside the interval wins, and of two such multiples the nearer one
    (the even one on an exact tie). All arithmetic is exact, on `Nat`. -/

namespace ChangeFilter.Decimal

/-- A finite binary64 value: sign, significand `m` and exponent `q`, worth
    `m · 2^q`. -/
structure Binary where
  negative : Bool
  mantissa : Nat
  exponent : Int
  deriving DecidableEq, Repr

/-- What a binary64 bit pattern holds. -/
inductive Kind where
  | finite (b : Binary)
  | infinite (negative : Bool)
  | nan
  deriving DecidableEq, Repr

/-- Splits a binary64 value into sign, significand and exponent. -/
def classify (x : Float) : Kind :=
  let bits := x.toBits.toNat
  let negative := bits / Nat.pow 2 63 = 1
  let e : Nat := (bits / Nat.pow 2 52) % 2048
  let f : Nat := bits % Nat.pow 2 52
  if e = 2047 then (if f = 0 then .infinite negative else .nan)
  else if e = 0 then .finite ⟨negative, f, -1074⟩
  else .finite ⟨negative, f + Nat.pow 2 52, (e : Int) - 1075⟩

/-- Compares `n · 2^a · 10^b` with `n' · 2^a' · 10^b'`. -/
def compareScaled (n : Nat) (a b : Int) (n' : Nat) (a' b' : Int) : Ordering :=
  let a0 := min a a'
  let b0 := min b b'
  compare (n * Nat.pow 2 (a - a0).toNat * Nat.pow 10 (b - b0).toNat)
    (n' * Nat.pow 2 (a' - a0).toNat * Nat.pow 10 (b' - b0).toNat)

/-- The interval of reals that read back as `m · 2^q`, as its two ends
    `(num, exp)` worth `num · 2^exp`, and whether the ends belong to it. -/
def readBackInterval (m : Nat) (q : Int) : (Nat × Int) × (Nat × Int) × Bool :=
  let low := if m = Nat.pow 2 52 ∧ q > -1074 then (4 * m - 1, q - 2) else (2 * m - 1, q - 1)
  (low, (2 * m + 1, q - 1), m % 2 = 0)

/-- Whether `c · 10^e` reads back as `m · 2^q`. -/
def readsBack (m : Nat) (q : Int) (c : Nat) (e : Int) : Bool :=
  let ((ln, le), (hn, he), closed) := readBackInterval m q
  let aboveLow := match compareScaled ln le 0 c 0 e with
    | .lt => true
    | .eq => closed
    | .gt => false
  let belowHigh := match compareScaled c 0 e hn he 0 with
    | .lt => true
    | .eq => closed
    | .gt => false
  aboveLow && belowHigh

/-- Moves an estimate `d` of the decimal exponent of `m · 2^q` towards the `d`
    with `10^d ≤ m · 2^q < 10^(d+1)`, in at most `fuel` steps. -/
def fixExponent (m : Nat) (q : Int) : Nat → Int → Int
  | 0, d => d
  | fuel + 1, d =>
    if compareScaled 1 0 d m q 0 = .gt then fixExponent m q fuel (d - 1)
    else if compareScaled 1 0 (d + 1) m q 0 != .gt then fixExponent m q fuel (d + 1)
    else d

/-- The decimal exponent `d` with `10^d ≤ m · 2^q < 10^(d+1)`, for `m > 0`. -/
def decimalExponent (m : Nat) (q : Int) : Int :=
  let bits : Int := (Nat.log2 m : Int) + q
  fixExponent m q 8 ((bits * 78913).fdiv 262144)

/-- Drops trailing zeros of `c`, raising the exponent `e` to match. -/
def dropZeros : Nat → Nat → Int → Nat × Int
  | 0, c, e => (c, e)
  | fuel + 1, c, e => if c ≠ 0 ∧ c % 10 = 0 then dropZeros fuel (c / 10) (e + 1) else (c, e)

/-- The multiple of `10^e` that is nearest to `m · 2^q` among those that read
    back, of the two next to it; `none` when neither reads back. -/
def gridPick (m : Nat) (q : Int) (e : Int) : Option Nat :=
  let num := m * Nat.pow 2 q.toNat * Nat.pow 10 (-e).toNat
  let den := Nat.pow 2 (-q).toNat * Nat.pow 10 e.toNat
  let lo := num / den
  let hi := lo + 1
  match readsBack m q lo e, readsBack m q hi e with
  | true, true =>
    match compare (2 * num) ((2 * lo + 1) * den) with
    | .lt => some lo
    | .gt => some hi
    | .eq => some (if lo % 2 = 0 then lo else hi)
  | true, false => some lo
  | false, true => some hi
  | false, false => none

/-- The fewest significant digits that read back as `m · 2^q` (for `m > 0`),
    as `(c, e)` worth `c · 10^e`, with no trailing zero in `c`. -/
def shortest (m : Nat) (q : Int) : Nat × Int :=
  let d := decimalExponent m q
  let pick := (List.range 17).findSome? fun (k : Nat) =>
    let e : Int := d - (k : Int)
    (gridPick m q e).map fun c => (c, e)
  let (c, e) := pick.getD (m * Nat.pow 2 q.toNat / Nat.pow 2 (-q).toNat, 0)
  dropZeros 20 c e

end ChangeFilter.Decimal
