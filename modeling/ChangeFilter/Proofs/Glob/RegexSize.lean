import ChangeFilter.Proofs.Glob.BraceScan
import ChangeFilter.Proofs.Glob.Brace

/-! # Glob patterns: the size of the regular expression

    Each piece of a compiled glob stands for a regular expression, which
    `Piece.regex` writes out:

    * a literal is its character, after a backslash when the character means
      something in a regular expression;
    * `*` is `[^/]*` and `?` is `[^/]`; the globstars are `(?:[^/]*/)*`,
      `(?:/.*)?` and `.*`;
    * a class is `[^B/]` when negated and `(?!/)[B]` otherwise, where `B` is
      its body with `\`, `[`, `&`, `~` and `|` escaped;
    * a group is `(?:A1|...|An)` over the expressions of its alternatives,
      equal ones written once, in the order they first appear.

    Main statement: `regex_length_le` — the expression of a glob body is at
    most five times as long as the body, however deep its brace groups nest.
    A group is written as its alternatives side by side, each of them once,
    and the alternatives with the commas between them fill the group text;
    no token is written in more than five characters per character of its
    text, the most being the five of `[^/]*` for a `*`. -/

namespace ChangeFilter.Glob

/-! ## The expression of a piece -/

/-- The characters that a regular expression escapes with a backslash to
    match them literally. -/
def regexSpecial : List Char :=
  ['(', ')', '[', ']', '{', '}', '?', '*', '+', '-', '|', '^', '$', '\\', '.', '&', '~', '#',
    ' ', '\t', '\n', '\r', '\x0b', '\x0c']

/-- A character matched literally. -/
def escapeChar (c : Char) : List Char :=
  if c ∈ regexSpecial then ['\\', c] else [c]

/-- A character of a class body: `\`, `[`, `&`, `~` and `|` are escaped. -/
def escapeClassChar (c : Char) : List Char :=
  if c ∈ ['\\', '[', '&', '~', '|'] then ['\\', c] else [c]

mutual
/-- The regular expression a piece stands for. -/
def Piece.regex : Piece → List Char
  | .lit c => escapeChar c
  | .segmentRun => ['[', '^', '/', ']', '*']
  | .segmentChar => ['[', '^', '/', ']']
  | .dirs => ['(', '?', ':', '[', '^', '/', ']', '*', '/', ')', '*']
  | .subtree => ['(', '?', ':', '/', '.', '*', ')', '?']
  | .anything => ['.', '*']
  | .bracket negated body =>
    if negated then ['[', '^'] ++ body.flatMap escapeClassChar ++ ['/', ']']
    else ['(', '?', '!', '/', ')', '['] ++ body.flatMap escapeClassChar ++ [']']
  | .group alts => ['(', '?', ':'] ++ ['|'].intercalate (Piece.altsRegex alts).eraseDups ++ [')']

/-- The regular expression of a sequence of pieces: theirs, one after the
    other. -/
def Piece.seqRegex : List Piece → List Char
  | [] => []
  | p :: ps => p.regex ++ Piece.seqRegex ps

/-- The regular expressions of the alternatives of a group. -/
def Piece.altsRegex : List (List Piece) → List (List Char)
  | [] => []
  | a :: more => Piece.seqRegex a :: Piece.altsRegex more
end

@[simp] theorem seqRegex_nil : Piece.seqRegex [] = [] := by
  simp [Piece.seqRegex]

@[simp] theorem seqRegex_cons (p : Piece) (ps : List Piece) :
    Piece.seqRegex (p :: ps) = p.regex ++ Piece.seqRegex ps := by
  simp [Piece.seqRegex]

theorem altsRegex_eq_map (alts : List (List Piece)) :
    Piece.altsRegex alts = alts.map Piece.seqRegex := by
  induction alts with
  | nil => simp [Piece.altsRegex]
  | cons a more ih => simp [Piece.altsRegex, ih]

/-! ## Lengths of the expressions of single pieces -/

theorem length_regex_lit (c : Char) : (Piece.lit c).regex.length ≤ 2 := by
  simp only [Piece.regex, escapeChar]
  split <;> simp

/-- A literal and what follows it: the literal takes at most two characters
    of the expression for its one character of text. -/
theorem length_seqRegex_lit_cons {c : Char} {ps : List Piece} {n : Nat}
    (h : (Piece.seqRegex ps).length ≤ 5 * n) :
    (Piece.seqRegex (.lit c :: ps)).length ≤ 5 * (n + 1) := by
  have := length_regex_lit c
  rw [seqRegex_cons, List.length_append]
  omega

theorem length_flatMap_escapeClassChar (body : List Char) :
    (body.flatMap escapeClassChar).length ≤ 2 * body.length := by
  induction body with
  | nil => simp
  | cons c rest ih =>
    have hc : (escapeClassChar c).length ≤ 2 := by
      unfold escapeClassChar
      split <;> simp
    simp only [List.flatMap_cons, List.length_append, List.length_cons]
    omega

/-- A class is written in at most seven characters more than twice its body. -/
theorem length_regex_bracket (negated : Bool) (body : List Char) :
    (Piece.bracket negated body).regex.length ≤ 2 * body.length + 7 := by
  have := length_flatMap_escapeClassChar body
  cases negated <;> simp [Piece.regex, -List.length_flatMap] <;> omega

theorem length_intercalate_add_one (c : Char) :
    ∀ {ts : List (List Char)}, ts ≠ [] →
      ([c].intercalate ts).length + 1 = (ts.map fun t => t.length + 1).sum
  | [t], _ => by simp
  | t :: t' :: more, _ => by
    rw [List.intercalate_cons_cons, List.map_cons, List.sum_cons,
      ← length_intercalate_add_one c (List.cons_ne_nil t' more)]
    simp only [List.length_append, List.length_singleton]
    omega

theorem length_intercalate_le (c : Char) (ts : List (List Char)) :
    ([c].intercalate ts).length ≤ (ts.map fun t => t.length + 1).sum := by
  cases ts with
  | nil => simp
  | cons t more =>
    have := length_intercalate_add_one c (List.cons_ne_nil t more)
    omega

theorem eraseDups_sublist {α : Type} [BEq α] : ∀ l : List α, List.Sublist l.eraseDups l
  | [] => by simp
  | a :: as => by
    rw [List.eraseDups_cons]
    exact ((eraseDups_sublist _).trans List.filter_sublist).cons_cons a
termination_by l => l.length
decreasing_by
  have := List.length_filter_le (fun b => !b == a) as
  simp only [List.length_cons]
  omega

theorem keepFirst_go_sublist : ∀ alts seen : List (List Piece),
    ∃ l, List.Sublist l alts ∧ keepFirst.go alts seen = seen.reverse ++ l
  | [], seen => ⟨[], List.Sublist.slnil, by simp [keepFirst.go]⟩
  | a :: rest, seen => by
    rw [keepFirst.go]
    split
    · obtain ⟨l, hl, heq⟩ := keepFirst_go_sublist rest seen
      exact ⟨l, hl.cons a, heq⟩
    · obtain ⟨l, hl, heq⟩ := keepFirst_go_sublist rest (a :: seen)
      exact ⟨a :: l, hl.cons_cons a, by rw [heq]; simp⟩

/-- Keeping the first of equal alternatives keeps some of them, in order. -/
theorem keepFirst_sublist (alts : List (List Piece)) : List.Sublist (keepFirst alts) alts := by
  obtain ⟨l, hl, heq⟩ := keepFirst_go_sublist alts []
  rw [keepFirst, heq]
  simpa using hl

/-- A group is written as its alternatives side by side, each at most once,
    between `(?:` and `)`. -/
theorem length_regex_group (alts : List (List Piece)) :
    (Piece.group alts).regex.length ≤ 4 + (alts.map fun p => (Piece.seqRegex p).length + 1).sum := by
  have hjoin := length_intercalate_le '|' (Piece.altsRegex alts).eraseDups
  have hkept := ((eraseDups_sublist (Piece.altsRegex alts)).map fun t => t.length + 1).sum_le_sum
    (fun _ _ => Nat.zero_le _)
  have hall : (Piece.altsRegex alts).map (fun t => t.length + 1) =
      alts.map fun p => (Piece.seqRegex p).length + 1 := by
    rw [altsRegex_eq_map, List.map_map]
    rfl
  rw [hall] at hkept
  simp only [Piece.regex, List.length_append, List.length_cons, List.length_nil]
  omega

/-! ## The text a group and a class take -/

theorem untilClose_length_add : ∀ {cs body after : List Char},
    untilClose cs = some (body, after) → body.length + after.length + 1 = cs.length
  | [], _, _, h => by simp [untilClose] at h
  | c :: rest, body, after, h => by
    simp only [untilClose] at h
    split at h
    · simp only [Option.some.injEq, Prod.mk.injEq] at h
      obtain ⟨rfl, rfl⟩ := h
      simp
    · obtain ⟨⟨b, a⟩, hr, heq⟩ := Option.map_eq_some_iff.1 h
      simp only [Prod.mk.injEq] at heq
      obtain ⟨rfl, rfl⟩ := heq
      have := untilClose_length_add hr
      simp only [List.length_cons]
      omega

theorem length_dropLead_add (cs : List Char) :
    (dropLead cs).1.length + (dropLead cs).2.length = cs.length := by
  unfold dropLead
  split
  · simp only [List.length_cons, List.length_nil]
    omega
  · simp

/-- A class takes its body, its brackets and any mark of the text. -/
theorem classSpan_length_add {cs body after : List Char} {neg : Bool}
    (h : classSpan cs = some (neg, body, after)) : body.length + after.length + 1 ≤ cs.length := by
  unfold classSpan at h
  simp only [Option.map_eq_some_iff, Prod.mk.injEq] at h
  obtain ⟨⟨b, a⟩, hu, -, rfl, rfl⟩ := h
  have h1 := untilClose_length_add hu
  have h2 := length_dropLead_add (dropMark cs).2
  have h3 := length_dropMark cs
  simp only [List.length_append]
  omega

/-- The alternatives of a group, each with the comma or brace after it, fill
    the group text after its opening brace. -/
theorem sum_length_alternatives {rest : List Char} {marks : List Nat}
    (h : groupMarks ('{' :: rest) = some marks) :
    (((consecutive marks).map fun p => between ('{' :: rest) p.1 p.2).map
      fun A => A.length + 1).sum = marks.getLastD 0 := by
  have htext := congrArg List.length (groupText_eq h)
  have hclose := close_lt_of_groupMarks h
  have hne : ((consecutive marks).map fun p => between ('{' :: rest) p.1 p.2) ≠ [] := by
    obtain ⟨-, hlen⟩ := groupMarks_eq_some_iff.1 h
    match marks, hlen with
    | x :: y :: l, _ => simp [consecutive_cons_cons]
  have hjoin := length_intercalate_add_one ',' hne
  have htake : (('{' :: rest).take (marks.getLastD 0 + 1)).length = marks.getLastD 0 + 1 :=
    List.length_take_of_le (by simp only [List.length_cons]; omega)
  rw [htake, List.length_append, List.length_cons, List.length_singleton] at htext
  omega

/-- The alternatives of a group, each with the comma or brace after it, and
    the text after the group fill the text after the opening brace. -/
theorem sum_length_matchBrace {rest after : List Char} {close : Nat} {alts : List (List Char)}
    (h : matchBrace ('{' :: rest) = some (close, alts))
    (hS : ('{' :: rest).drop (close + 1) = after) :
    (alts.map fun A => A.length + 1).sum + after.length = rest.length := by
  obtain ⟨marks, hm, rfl, rfl⟩ := matchBrace_eq_some.1 h
  subst hS
  have hsum := sum_length_alternatives hm
  have hclose := close_lt_of_groupMarks hm
  rw [List.length_drop, List.length_cons]
  omega

/-- A group and the text after it: the group's alternatives, written once
    each within five characters per character of their texts, take with the
    text after the group at most five characters per character of the text
    after the opening brace, and four more. -/
theorem regex_group_le {rest after : List Char} {close : Nat} {alts : List (List Char)}
    (h : matchBrace ('{' :: rest) = some (close, alts))
    (hS : ('{' :: rest).drop (close + 1) = after) {a e : Bool}
    (halts : ∀ A ∈ alts, (Piece.seqRegex (piecesOf A a e)).length ≤ 5 * A.length) :
    (Piece.group (keepFirst (alts.map fun A => piecesOf A a e))).regex.length +
      5 * after.length ≤ 5 * rest.length + 4 := by
  have hgroup := length_regex_group (keepFirst (alts.map fun A => piecesOf A a e))
  have hkept := ((keepFirst_sublist (alts.map fun A => piecesOf A a e)).map
    fun p => (Piece.seqRegex p).length + 1).sum_le_sum (fun _ _ => Nat.zero_le _)
  have hall : ((alts.map fun A => piecesOf A a e).map
      fun p => (Piece.seqRegex p).length + 1).sum ≤ 5 * (alts.map fun A => A.length + 1).sum := by
    rw [List.map_map, ← List.sum_map_mul_left]
    apply List.sum_le_sum
    intro A hA
    have := halts A hA
    simp only [Function.comp_apply]
    omega
  have hsum := sum_length_matchBrace h hS
  omega

/-! ## The expression of a glob body -/

/-- The regular expression of a glob body is at most five times as long as
    the body, whatever segment edges surround it and however deep its brace
    groups nest. The induction follows the reading of the body, one token per
    step; in a brace group it goes into each alternative, and the
    alternatives, written side by side, take no more than five times the
    group text between the braces. -/
theorem regex_length_le (cs : List Char) (a e : Bool) :
    (Piece.seqRegex (piecesOf cs a e)).length ≤ 5 * cs.length := by
  induction cs, a, e using piecesOf.induct with
  | case1 a e => simp [piecesOf.eq_1]
  | case2 a e =>
    rw [piecesOf.eq_2]
    exact length_seqRegex_lit_cons (n := 0) (by simp)
  | case3 a e c rest hcond =>
    rw [piecesOf.eq_3, if_pos hcond]
    simp [Piece.regex]
    omega
  | case4 a e c rest hcond ih =>
    -- an escaped character: one literal for two characters of text
    rw [piecesOf.eq_3, if_neg hcond]
    exact length_seqRegex_lit_cons (n := rest.length + 1) (by omega)
  | case5 a e rest hcond =>
    -- a trailing `/**`: the run of stars is at least two long
    rw [piecesOf.eq_4, if_pos hcond]
    have hrun : 2 ≤ rest.length := by
      have := hcond.2
      simp only [isStarRun, Bool.and_eq_true, decide_eq_true_eq] at this
      exact this.1
    simp [Piece.regex]
    omega
  | case6 a e rest hcond ih =>
    rw [piecesOf.eq_4, if_neg hcond]
    exact length_seqRegex_lit_cons ih
  | case7 a e rest hcond hdrop =>
    rw [piecesOf_star_anything hcond hdrop]
    simp [Piece.regex]
    omega
  | case8 a e rest hcond head after hdrop ih =>
    -- `**/`: a run of two or more stars, then the `/`
    rw [piecesOf_star_dirs hcond hdrop]
    have hrun := hcond.1
    have hlen : (dropStars rest).length = after.length + 1 := by rw [hdrop]; rfl
    simp only [seqRegex_cons, Piece.regex, List.length_append, List.length_cons,
      List.length_nil]
    omega
  | case9 a e rest hcond ih =>
    rw [piecesOf_star_run hcond]
    have := length_dropStars rest
    simp only [seqRegex_cons, Piece.regex, List.length_append, List.length_cons,
      List.length_nil]
    omega
  | case10 a e rest ih =>
    rw [piecesOf.eq_6]
    simp only [seqRegex_cons, Piece.regex, List.length_append, List.length_cons,
      List.length_nil]
    omega
  | case11 a e rest neg body after hspan ih =>
    rw [piecesOf_bracket hspan]
    have h1 := length_regex_bracket neg body
    have h2 := classSpan_length_add hspan
    simp only [seqRegex_cons, List.length_append, List.length_cons]
    omega
  | case12 a e rest hspan ih =>
    rw [piecesOf_bracket_none hspan]
    exact length_seqRegex_lit_cons ih
  | case13 a e rest close alts hbrace after ends ihAlt ihAfter =>
    have hafter : ('{' :: rest).drop (close + 1) = after := rfl
    rw [piecesOf_matchBrace hbrace, hafter]
    have hgroup := regex_group_le hbrace hafter (a := a) (e := startsSegment after e)
      (fun A hA => ihAlt ⟨A, hA⟩)
    rw [seqRegex_cons, List.length_append, List.length_cons]
    omega
  | case14 a e rest hnone ih =>
    rw [piecesOf_brace_none (matchBrace_eq_none.1 hnone)]
    exact length_seqRegex_lit_cons ih
  | case15 a e c rest h1 h2 h3 h4 h5 h6 h7 ih =>
    rw [piecesOf.eq_9 _ _ c rest h1 h2 h3 h4 h5 h6 h7]
    exact length_seqRegex_lit_cons ih

end ChangeFilter.Glob
