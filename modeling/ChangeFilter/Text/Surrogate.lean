/-! # Lone surrogates in text

    Text read from an escape such as `\ud800` can hold a UTF-16 surrogate
    code point that stands alone. A `Char` cannot be a surrogate, so each of
    the 2048 surrogates `0xD800 + k` is carried by the code point
    `0x10F800 + k`, the top of the last private-use plane. Readers of escapes
    make them with `ofSurrogate`, writers of escapes ask `surrogate?` to write
    them back as the surrogate they carry, and class ranges order characters
    by the `codePoint` they stand for.

    A carrier is a character in its own right: a private-use character from
    `0x10F800` to `0x10FFFF` written in the text itself reads as the surrogate
    it would carry, and the two cannot be told apart. Text without such
    characters is read and written as it stands. -/

namespace ChangeFilter.Text

/-- The first code point that carries a surrogate. -/
def surrogateBase : Nat := 0x10F800

/-- Whether a number is a UTF-16 surrogate code point. -/
def isSurrogate (n : Nat) : Bool :=
  0xD800 ≤ n && n ≤ 0xDFFF

/-- The character that carries the surrogate `n` (`0xD800 ≤ n ≤ 0xDFFF`). -/
def ofSurrogate (n : Nat) : Char :=
  Char.ofNat (surrogateBase + (n - 0xD800))

/-- The surrogate a character carries, if it carries one. -/
def surrogate? (c : Char) : Option Nat :=
  if surrogateBase ≤ c.toNat then some (c.toNat - surrogateBase + 0xD800) else none

/-- The code point a character stands for: the surrogate it carries, or its
    own. Ranges of characters are ranges of these. -/
def codePoint (c : Char) : Nat :=
  (surrogate? c).getD c.toNat

/-- The character of a code point from an escape: a surrogate is carried,
    and any other code point is itself. -/
def ofCodePoint (n : Nat) : Char :=
  if isSurrogate n then ofSurrogate n else Char.ofNat n

/-- A valid code point is the code point of its character. -/
theorem toNat_ofNat_of_valid (m : Nat) (h : m.isValidChar) : (Char.ofNat m).toNat = m := by
  rw [Char.ofNat, dif_pos h]
  rfl

/-- The carrier of a surrogate has the code point `0x10F800 + (n - 0xD800)`. -/
theorem ofSurrogate_toNat (n : Nat) (h : isSurrogate n) :
    (ofSurrogate n).toNat = surrogateBase + (n - 0xD800) := by
  simp only [isSurrogate, Bool.and_eq_true, decide_eq_true_eq] at h
  have hv : (surrogateBase + (n - 0xD800)).isValidChar := by
    unfold surrogateBase Nat.isValidChar
    omega
  exact toNat_ofNat_of_valid _ hv

theorem surrogate?_ofSurrogate (n : Nat) (h : isSurrogate n) :
    surrogate? (ofSurrogate n) = some n := by
  have ht := ofSurrogate_toNat n h
  simp only [isSurrogate, Bool.and_eq_true, decide_eq_true_eq] at h
  unfold surrogate?
  rw [ht]
  rw [if_pos (Nat.le_add_right _ _)]
  have hn : surrogateBase + (n - 0xD800) - surrogateBase + 0xD800 = n := by
    generalize surrogateBase = b
    omega
  exact congrArg some hn

end ChangeFilter.Text
