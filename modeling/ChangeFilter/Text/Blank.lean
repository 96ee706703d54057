/-! # Blank characters

    The blank characters are the ones that separate words: the ASCII tab, line
    feed, vertical tab, form feed, carriage return and space, the information
    separators U+001C to U+001F, the next-line character U+0085, and the Unicode
    space and line/paragraph separators. Trimming text and the shell's quoting
    class use this set. Number text may stand between the same characters
    except the information separators, which count as blank only beyond
    ASCII's own whitespace. -/

namespace ChangeFilter.Text

/-- The blank characters, ascending. -/
def blankCodes : List Nat :=
  [0x9, 0xA, 0xB, 0xC, 0xD, 0x1C, 0x1D, 0x1E, 0x1F, 0x20, 0x85, 0xA0, 0x1680,
   0x2000, 0x2001, 0x2002, 0x2003, 0x2004, 0x2005, 0x2006, 0x2007, 0x2008,
   0x2009, 0x200A, 0x2028, 0x2029, 0x202F, 0x205F, 0x3000]

/-- Whether a character is blank. -/
def isBlank (c : Char) : Bool :=
  blankCodes.contains c.toNat

/-- Drops blank characters at both ends of a text. -/
def trimBlank (s : String) : String :=
  String.ofList ((s.toList.dropWhile isBlank).reverse.dropWhile isBlank).reverse

/-- Whether a character may stand around number text: a blank other than an
    information separator. -/
def isNumberBlank (c : Char) : Bool :=
  isBlank c && !(0x1C ≤ c.toNat && c.toNat ≤ 0x1F)

/-- Drops the characters that may stand around number text at both ends. -/
def trimNumberBlank (s : String) : String :=
  String.ofList ((s.toList.dropWhile isNumberBlank).reverse.dropWhile isNumberBlank).reverse

/-- Text without one final line feed. A pattern that must reach the end of a
    text may also stop just before a final line feed, so it is tested on this
    text as well. -/
def dropFinalLineFeed (s : String) : String :=
  if s.endsWith "\n" then String.ofList s.toList.dropLast else s

theorem isBlank_of_isWhitespace (c : Char) (h : c.isWhitespace = true) : isBlank c = true := by
  simp only [Char.isWhitespace, Bool.or_eq_true, decide_eq_true_eq] at h
  simp only [isBlank, blankCodes]
  rcases h with ((h | h) | h) | h <;> simp [h]

end ChangeFilter.Text
