import ChangeFilter.Glob.Compile

/-! # Glob patterns: matching paths

    A pattern matches a path when its pieces consume the whole path, one piece
    after the other. `Piece.rests p s` lists the texts that can remain of `s`
    after the piece `p` consumed a prefix of it; `Piece.seqRests` carries a set
    of such remainders through a sequence of pieces, keeping each remainder
    once, so a pattern with many stars stays polynomial in the path.

    A negated pattern accepts exactly the paths its body rejects. -/

namespace ChangeFilter.Glob

/-! ## What one piece consumes -/

/-- Every remainder after a run of characters other than `/`: the text itself
    and each suffix reached before the first `/`. -/
def segmentRests : List Char → List (List Char)
  | [] => [[]]
  | c :: rest => if c = '/' then [c :: rest] else (c :: rest) :: segmentRests rest

/-- Every suffix of a text, longest first. -/
def suffixes : List Char → List (List Char)
  | [] => [[]]
  | c :: rest => (c :: rest) :: suffixes rest

/-- Every remainder after a prefix that is empty or ends in `/`. -/
def dirRests : List Char → List (List Char)
  | [] => [[]]
  | c :: rest =>
    (c :: rest) :: (if c = '/' then dirRests rest else (dirRests rest).drop 1)

/-- Whether a bracket class admits a character: never `/`, and otherwise the
    membership in the class's members, flipped when the class is negated. -/
def bracketAdmits (negated : Bool) (body : List Char) (c : Char) : Bool :=
  match readClass negated body with
  | .ok items => c != '/' && (items.any (·.admits c) != negated)
  | .error _ => false

/-- The remainder after one character that passes `ok`. -/
def oneRest (ok : Char → Bool) : List Char → List (List Char)
  | c :: rest => if ok c then [rest] else []
  | [] => []

mutual
/-- The texts that can remain of `s` after the piece consumed a prefix of it. -/
def Piece.rests : Piece → List Char → List (List Char)
  | .lit c, s => oneRest (· == c) s
  | .segmentRun, s => segmentRests s
  | .segmentChar, s => oneRest (· != '/') s
  | .dirs, s => dirRests s
  | .subtree, s =>
    match s with
    | '/' :: rest => s :: suffixes rest
    | _ => [s]
  | .anything, s => suffixes s
  | .bracket negated body, s => oneRest (bracketAdmits negated body) s
  | .group alternatives, s => Piece.altRests alternatives s

/-- The remainders after a sequence of pieces, starting from each of `ss`. -/
def Piece.seqRests : List Piece → List (List Char) → List (List Char)
  | [], ss => ss
  | p :: ps, ss => Piece.seqRests ps (ss.flatMap p.rests).eraseDups

/-- The remainders after any one of the alternatives. -/
def Piece.altRests : List (List Piece) → List Char → List (List Char)
  | [], _ => []
  | a :: more, s => Piece.seqRests a [s] ++ Piece.altRests more s
end

/-- Whether a sequence of pieces consumes the whole text. -/
def fullMatch (pieces : List Piece) (path : List Char) : Bool :=
  (Piece.seqRests pieces [path]).any (·.isEmpty)

/-- Whether a compiled pattern accepts a path; negation flips the answer. -/
def Pattern.accepts (p : Pattern) (path : String) : Bool :=
  fullMatch p.pieces path.toList != p.negated

end ChangeFilter.Glob
