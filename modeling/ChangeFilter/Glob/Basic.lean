import ChangeFilter.Text.Surrogate

/-! # Glob patterns: the compiled form

    A glob is compiled into a list of `Piece`s, each of which consumes a part of
    a repository path. The pieces are the ones a path glob needs: literal
    characters, the in-segment wildcards `*` and `?`, the three globstar forms,
    bracket classes and brace groups.

    Bracket classes keep their body text; `readClass` reads it into members,
    with `-` literal when it stands first or last, and refuses a reversed range;
    range ends are compared as the code points they stand for.
    A negated class reads its body with a final `/` member, so that `/` is never
    matched and a trailing `-` opens a range up to `/`. -/

namespace ChangeFilter.Glob

/-! ## Class members -/

/-- A member of a bracket class: one character or an inclusive range. -/
inductive ClassItem where
  | single (c : Char)
  | range (lo hi : Char)
  deriving DecidableEq, Repr

/-- Whether a class member admits a character. -/
def ClassItem.admits : ClassItem → Char → Bool
  | .single c, x => x == c
  | .range lo hi, x =>
    Text.codePoint lo ≤ Text.codePoint x && Text.codePoint x ≤ Text.codePoint hi

/-- Reads class members left to right. A `-` between two members makes a range,
    and a `-` at the end is literal; a range whose ends are reversed is refused
    with its two ends. -/
def readItems : List Char → Except (Char × Char) (List ClassItem)
  | [] => .ok []
  | [c, '-'] => .ok [.single c, .single '-']
  | c :: '-' :: d :: rest =>
    if Text.codePoint d < Text.codePoint c then .error (c, d)
    else (readItems rest).map (ClassItem.range c d :: ·)
  | c :: rest => (readItems rest).map (ClassItem.single c :: ·)

/-- The members of a class with body `body`; a negated class also holds `/`. -/
def readClass (negated : Bool) (body : List Char) : Except (Char × Char) (List ClassItem) :=
  readItems (if negated then body ++ ['/'] else body)

/-! ## Pieces -/

/-- One piece of a compiled glob. -/
inductive Piece where
  /-- Exactly this character. -/
  | lit (c : Char)
  /-- `*`: any run of characters other than `/`. -/
  | segmentRun
  /-- `?`: one character other than `/`. -/
  | segmentChar
  /-- A leading or inner `**/`: nothing, or any text that ends in `/`. -/
  | dirs
  /-- A trailing `/**`: nothing, or `/` followed by any text. -/
  | subtree
  /-- A `**` that is the whole pattern: any text. -/
  | anything
  /-- A bracket class with its body text; it never matches `/`. -/
  | bracket (negated : Bool) (body : List Char)
  /-- A brace group: any one of the alternatives. -/
  | group (alternatives : List (List Piece))
  deriving Repr

mutual
/-- Structural equality of pieces. -/
def Piece.beq : Piece → Piece → Bool
  | .lit a, .lit b => a == b
  | .segmentRun, .segmentRun => true
  | .segmentChar, .segmentChar => true
  | .dirs, .dirs => true
  | .subtree, .subtree => true
  | .anything, .anything => true
  | .bracket n b, .bracket m c => n == m && b == c
  | .group as, .group bs => Piece.beqAlts as bs
  | _, _ => false

/-- Structural equality of piece sequences. -/
def Piece.beqSeq : List Piece → List Piece → Bool
  | [], [] => true
  | p :: ps, q :: qs => Piece.beq p q && Piece.beqSeq ps qs
  | _, _ => false

/-- Structural equality of lists of alternatives. -/
def Piece.beqAlts : List (List Piece) → List (List Piece) → Bool
  | [], [] => true
  | a :: as, b :: bs => Piece.beqSeq a b && Piece.beqAlts as bs
  | _, _ => false
end

instance : BEq Piece := ⟨Piece.beq⟩

/-- A compiled glob: its text, whether a leading `!` count made it negated,
    and the pieces of its body. -/
structure Pattern where
  text : String
  negated : Bool
  pieces : List Piece
  deriving Repr

/-- Why a glob cannot be compiled: a bracket class holds a reversed range. -/
inductive Error where
  | reversedRange (lo hi : Char)
  deriving DecidableEq, Repr

end ChangeFilter.Glob
