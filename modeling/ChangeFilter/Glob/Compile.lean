import ChangeFilter.Glob.Basic

/-! # Glob patterns: compiling text into pieces

    `piecesOf` reads a glob body left to right:

    * `\x` is the literal `x`, and a final `\` is a literal backslash;
    * a run of `*` is a globstar only when it fills a whole segment (the text
      before and after it is `/` or an edge that starts a segment). Then `**/`
      becomes `dirs`, a `/**` at the end becomes `subtree`, and a `**` with
      nothing around it becomes `anything`; every other run is `segmentRun`;
    * `?` is `segmentChar`;
    * `[` opens a class when a `]` closes it (a `]` first in the body, or
      after `!` or `^`, is a member); otherwise `[` is literal;
    * `{` opens a group when `matchBrace` finds its closing brace and a comma
      at its own depth; each alternative is read with the segment edges seen
      around the braces, and equal alternatives are kept once.

    `compile` strips leading `!` marks (each one toggles negation) and refuses
    a pattern with a reversed class range. -/

namespace ChangeFilter.Glob

/-! ## Brace groups -/

/-- Scans a brace group. `i` is the index of the head of `cs` within the group
    text, `depth` the brace depth before it, and `marks` (newest first) the
    indices of the opening brace and of the commas at depth one. A backslash
    hides the character after it. Returns the marks followed by the index of
    the closing brace, or `none` when the group never closes. -/
def groupMarksFrom : List Char → Nat → Nat → List Nat → Option (List Nat)
  | [], _, _, _ => none
  | ['\\'], _, _, _ => none
  | '\\' :: _ :: rest, i, depth, marks => groupMarksFrom rest (i + 2) depth marks
  | '{' :: rest, i, depth, marks => groupMarksFrom rest (i + 1) (depth + 1) marks
  | '}' :: rest, i, depth, marks =>
    if depth = 1 then some (i :: marks).reverse
    else groupMarksFrom rest (i + 1) (depth - 1) marks
  | ',' :: rest, i, depth, marks =>
    if depth = 1 then groupMarksFrom rest (i + 1) depth (i :: marks)
    else groupMarksFrom rest (i + 1) depth marks
  | _ :: rest, i, depth, marks => groupMarksFrom rest (i + 1) depth marks

/-- The marks of the group opened by the brace at the head of `cs`: the index
    of that brace, of each comma at depth one, and of the closing brace. A group
    without a comma at depth one is no group. -/
def groupMarks (cs : List Char) : Option (List Nat) :=
  match groupMarksFrom cs 0 0 [0] with
  | some marks => if marks.length ≤ 2 then none else some marks
  | none => none

/-- The text strictly between the marks `a` and `b`. -/
def between (cs : List Char) (a b : Nat) : List Char :=
  (cs.drop (a + 1)).take (b - a - 1)

/-- Consecutive pairs of a list. -/
def consecutive : List Nat → List (Nat × Nat)
  | a :: b :: rest => (a, b) :: consecutive (b :: rest)
  | _ => []

theorem length_between_lt (c : Char) (cs : List Char) (a b : Nat) :
    (between (c :: cs) a b).length < (c :: cs).length := by
  simp only [between, List.length_take, List.length_drop, List.length_cons]
  omega

/-- The group opened by the brace at the head of `cs`: the index of its
    closing brace and its alternatives, the texts between consecutive marks. -/
def matchBrace (cs : List Char) : Option (Nat × List (List Char)) :=
  (groupMarks cs).map fun marks =>
    (marks.getLastD 0, (consecutive marks).map fun p => between cs p.1 p.2)

/-- Every alternative of a group is shorter than the text that opens it. -/
theorem length_lt_of_mem_matchBrace {c : Char} {cs : List Char} {close : Nat}
    {alts : List (List Char)} (h : matchBrace (c :: cs) = some (close, alts)) {A : List Char}
    (hA : A ∈ alts) : A.length < (c :: cs).length := by
  simp only [matchBrace, Option.map_eq_some_iff, Prod.mk.injEq] at h
  obtain ⟨marks, -, -, rfl⟩ := h
  obtain ⟨p, -, rfl⟩ := List.mem_map.1 hA
  exact length_between_lt _ _ _ _

/-! ## Bracket classes -/

/-- The text up to the first `]`, and the text after it. -/
def untilClose : List Char → Option (List Char × List Char)
  | [] => none
  | c :: rest =>
    if c = ']' then some ([], rest)
    else (untilClose rest).map fun (body, after) => (c :: body, after)

/-- Drops an optional `!` or `^` mark, saying whether there was one. -/
def dropMark : List Char → Bool × List Char
  | c :: rest => if c = '!' ∨ c = '^' then (true, rest) else (false, c :: rest)
  | [] => (false, [])

/-- Splits off a `]` that stands first, which is then a member. -/
def dropLead : List Char → List Char × List Char
  | ']' :: rest => ([']'], rest)
  | cs => ([], cs)

/-- Reads a class body after its `[`: an optional `!` or `^`, then an optional
    leading `]`, then text up to the next `]`. Returns whether the class is
    negated, its member text and the text after the class. -/
def classSpan (cs : List Char) : Option (Bool × List Char × List Char) :=
  let (neg, r1) := dropMark cs
  let (lead, r2) := dropLead r1
  (untilClose r2).map fun (body, after) => (neg, lead ++ body, after)

theorem untilClose_length : ∀ {cs body after : List Char},
    untilClose cs = some (body, after) → after.length < cs.length
  | [], _, _, h => by simp [untilClose] at h
  | c :: rest, body, after, h => by
    simp only [untilClose] at h
    split at h
    · simp only [Option.some.injEq, Prod.mk.injEq] at h
      simp [← h.2]
    · rcases hr : untilClose rest with _ | ⟨b, a⟩
      · simp [hr] at h
      · rw [hr] at h
        simp only [Option.map_some, Option.some.injEq, Prod.mk.injEq] at h
        have := untilClose_length hr
        simp only [List.length_cons, ← h.2]
        omega

theorem length_dropMark (cs : List Char) : (dropMark cs).2.length ≤ cs.length := by
  unfold dropMark
  split
  · split <;> simp
  · simp

theorem length_dropLead (cs : List Char) : (dropLead cs).2.length ≤ cs.length := by
  unfold dropLead
  split <;> simp

theorem classSpan_length {cs body after : List Char} {neg : Bool}
    (h : classSpan cs = some (neg, body, after)) : after.length < cs.length + 1 := by
  unfold classSpan at h
  simp only [Option.map_eq_some_iff, Prod.mk.injEq] at h
  obtain ⟨⟨b, a⟩, hu, -, -, rfl⟩ := h
  have h1 : a.length < _ := untilClose_length hu
  have h2 := length_dropLead (dropMark cs).2
  have h3 := length_dropMark cs
  dsimp only
  omega

/-! ## Pieces of a glob body -/

/-- Whether a text is a run of at least two `*` and nothing else. -/
def isStarRun (cs : List Char) : Bool :=
  2 ≤ cs.length && cs.all (· == '*')

/-- Whether a segment starts after the head of a text: at its end this is
    `atEnd`, else whether the next character is `/`. -/
def startsSegment (cs : List Char) (atEnd : Bool) : Bool :=
  match cs with
  | [] => atEnd
  | c :: _ => c == '/'

/-- Keeps the first of equal alternatives, in their order. -/
def keepFirst (alts : List (List Piece)) : List (List Piece) :=
  go alts []
where
  /-- `seen` holds the alternatives kept so far, newest first. -/
  go : List (List Piece) → List (List Piece) → List (List Piece)
    | [], seen => seen.reverse
    | a :: rest, seen => if seen.any (Piece.beqSeq a) then go rest seen else go rest (a :: seen)

/-- The text after a run of `*`. -/
def dropStars (cs : List Char) : List Char :=
  cs.dropWhile (· == '*')

theorem length_dropStars (cs : List Char) : (dropStars cs).length ≤ cs.length := by
  induction cs with
  | nil => simp [dropStars]
  | cons c rest ih =>
    simp only [dropStars, List.dropWhile_cons] at *
    split
    · simp only [List.length_cons]
      omega
    · exact Nat.le_refl _

/-- The pieces of a glob body. `atStart` says whether a segment starts at the head
    of the text (the text before it is an edge that ends a segment, or `/`), and
    `atEnd` whether the text after the body starts one. -/
def piecesOf (cs : List Char) (atStart atEnd : Bool) : List Piece :=
  match cs with
  | [] => []
  | ['\\'] => [.lit '\\']
  | '\\' :: c :: rest =>
    if c = '/' ∧ atEnd ∧ isStarRun rest then [.subtree]
    else .lit c :: piecesOf rest (c == '/') atEnd
  | '/' :: rest =>
    if atEnd ∧ isStarRun rest then [.subtree]
    else .lit '/' :: piecesOf rest true atEnd
  | '*' :: rest =>
    if rest.length - (dropStars rest).length ≥ 1 ∧ atStart ∧
        startsSegment (dropStars rest) atEnd then
      match _hdrop : dropStars rest with
      | [] => [.anything]
      | _ :: after => .dirs :: piecesOf after true atEnd
    else .segmentRun :: piecesOf (dropStars rest) false atEnd
  | '?' :: rest => .segmentChar :: piecesOf rest false atEnd
  | '[' :: rest =>
    match _hspan : classSpan rest with
    | some (neg, body, after) => .bracket neg body :: piecesOf after false atEnd
    | none => .lit '[' :: piecesOf rest false atEnd
  | '{' :: rest =>
    match _hbrace : matchBrace ('{' :: rest) with
    | some (close, alts) =>
      let after := ('{' :: rest).drop (close + 1)
      let ends := startsSegment after atEnd
      .group (keepFirst (alts.attach.map fun A => piecesOf A.1 atStart ends)) ::
        piecesOf after false atEnd
    | none => .lit '{' :: piecesOf rest false atEnd
  | c :: rest => .lit c :: piecesOf rest false atEnd
termination_by cs.length
decreasing_by
  all_goals first
    | (simp only [List.length_cons]; omega)
    | (have h1 := length_dropStars rest; simp only [List.length_cons] at *; omega)
    | (have h1 := length_dropStars rest; rw [_hdrop] at h1
       simp only [List.length_cons] at *; omega)
    | (have h1 := classSpan_length _hspan; simp only [List.length_cons] at *; omega)
    | (exact length_lt_of_mem_matchBrace _hbrace (Subtype.property _))
    | (simp only [List.length_drop, List.length_cons]; omega)

/-! ## Compiling -/

/-- Strips leading `!` marks; each one toggles negation. -/
def splitNegation : List Char → List Char × Bool
  | '!' :: rest => let (body, neg) := splitNegation rest; (body, !neg)
  | cs => (cs, false)

/-- The first bracket class of a piece list whose members cannot be read. -/
def firstBadClass : List Piece → Option Error
  | [] => none
  | .bracket neg body :: rest =>
    match readClass neg body with
    | .error (lo, hi) => some (.reversedRange lo hi)
    | .ok _ => firstBadClass rest
  | .group alts :: rest =>
    match firstBadAlt alts with
    | some e => some e
    | none => firstBadClass rest
  | _ :: rest => firstBadClass rest
where
  /-- The first bad class among alternatives. -/
  firstBadAlt : List (List Piece) → Option Error
    | [] => none
    | a :: more =>
      match firstBadClass a with
      | some e => some e
      | none => firstBadAlt more

/-- Compiles a glob: leading `!` marks set negation, the body is read into pieces,
    and every bracket class must read without a reversed range. -/
def compile (text : String) : Except Error Pattern :=
  let (body, negated) := splitNegation text.toList
  let pieces := piecesOf body true true
  match firstBadClass pieces with
  | some e => .error e
  | none => .ok { text, negated, pieces }

end ChangeFilter.Glob
