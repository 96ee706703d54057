import ChangeFilter.Proofs.Glob.Brace

/-! # Glob patterns: escaping a path into a glob that matches only it

    The glob reader gives five characters a meaning of their own, `\`, `*`,
    `?`, `[` and `{`, and a leading `!` negates the pattern. Writing a
    backslash before each of them, and before a leading `!`, turns any text
    into a glob that reads as one literal per character: a backslash takes
    the next character as itself, and every character left bare is read as
    itself already, `]`, `}`, `,` and `/` included. Such a glob compiles,
    and it accepts the text and no other path.

    Main statements:
    * `piecesOf_literalText` — an escaped text reads as its characters, each
      a literal piece;
    * `literal_glob_accepts_only` — the escaped glob compiles and accepts
      exactly the text it was made from. -/

namespace ChangeFilter.Glob

open Language

/-! ## Escaping a text -/

/-- The characters the glob reader does not read as themselves. -/
def isGlobSpecial (c : Char) : Bool :=
  c == '\\' || c == '*' || c == '?' || c == '[' || c == '{'

/-- A character as the reader should see it: a special one behind a backslash. -/
def literalChar (c : Char) : List Char :=
  if isGlobSpecial c then ['\\', c] else [c]

/-- A text with each special character escaped. -/
def literalBody (cs : List Char) : List Char :=
  cs.flatMap literalChar

/-- A text with each special character escaped, and a leading `!` as well,
    so that it is not read as a negation. -/
def literalText : List Char → List Char
  | '!' :: rest => '\\' :: '!' :: literalBody rest
  | cs => literalBody cs

/-- The glob that matches exactly the path `s`. -/
def literalGlob (s : String) : String :=
  String.ofList (literalText s.toList)

theorem literalBody_cons (c : Char) (cs : List Char) :
    literalBody (c :: cs) = literalChar c ++ literalBody cs := by
  simp [literalBody]

/-- An escaped body never starts with `*`, so a `/` before it never starts
    a trailing globstar. -/
theorem isStarRun_literalBody (cs : List Char) : isStarRun (literalBody cs) = false := by
  cases cs with
  | nil => rfl
  | cons c rest =>
    by_cases hs : isGlobSpecial c = true
    · simp [literalBody_cons, literalChar, hs, isStarRun]
    · have hc : c ≠ '*' := by
        rintro rfl
        simp [isGlobSpecial] at hs
      simp [literalBody_cons, literalChar, hs, isStarRun, hc]

/-! ## Reading an escaped text -/

/-- An escaped body reads as one literal per character, from any segment
    edges. -/
theorem piecesOf_literalBody (cs : List Char) (a e : Bool) :
    piecesOf (literalBody cs) a e = cs.map Piece.lit := by
  induction cs generalizing a with
  | nil => simp [literalBody, piecesOf.eq_1]
  | cons c rest ih =>
    rw [literalBody_cons, literalChar, List.map_cons]
    by_cases hs : isGlobSpecial c = true
    · -- `\c`: the backslash takes the special character, which is no `/`
      have hslash : c ≠ '/' := by
        rintro rfl
        simp [isGlobSpecial] at hs
      rw [if_pos hs, List.cons_append, List.cons_append, List.nil_append, piecesOf.eq_3,
        if_neg (by simp [hslash]), ih]
    · rw [if_neg hs, List.cons_append, List.nil_append]
      by_cases hslash : c = '/'
      · -- a bare `/`, which no run of stars follows
        subst hslash
        rw [piecesOf.eq_4, if_neg (by simp [isStarRun_literalBody]), ih]
      · -- any other bare character is read as itself
        simp only [isGlobSpecial, Bool.or_eq_true, beq_iff_eq, not_or] at hs
        obtain ⟨⟨⟨⟨h1, h2⟩, h3⟩, h4⟩, h5⟩ := hs
        rw [piecesOf.eq_9 _ _ c _ (fun h _ => h1 h) (fun _ _ h _ => h1 h) hslash h2 h3 h4 h5, ih]

/-- An escaped text reads as one literal per character, its leading `!`
    included. -/
theorem piecesOf_literalText (cs : List Char) (a e : Bool) :
    piecesOf (literalText cs) a e = cs.map Piece.lit := by
  cases cs with
  | nil => exact piecesOf_literalBody [] a e
  | cons c rest =>
    by_cases hc : c = '!'
    · subst hc
      rw [literalText, piecesOf.eq_3, if_neg (by simp), piecesOf_literalBody, List.map_cons]
    · rw [literalText.eq_2 _ (fun r h => hc (List.cons.inj h).1), piecesOf_literalBody]

/-- An escaped text carries no negation mark. -/
theorem head_literalText_ne_bang (cs : List Char) : (literalText cs).head? ≠ some '!' := by
  cases cs with
  | nil => simp [literalText, literalBody]
  | cons c rest =>
    by_cases hc : c = '!'
    · subst hc
      simp [literalText]
    · rw [literalText.eq_2 _ (fun r h => hc (List.cons.inj h).1), literalBody_cons, literalChar]
      split <;> simp [hc]

/-! ## The language of literals -/

/-- A sequence of literal pieces consumes exactly its characters. -/
theorem mem_seqLang_map_lit {u : List Char} :
    ∀ {cs : List Char}, u ∈ Piece.seqLang (cs.map Piece.lit) ↔ u = cs
  | [] => by simp [mem_one]
  | c :: cs => by
    simp only [List.map_cons, seqLang_cons, lang_lit, mem_mul, mem_singleton_lang,
      mem_seqLang_map_lit, exists_eq_left, List.singleton_append]
    exact eq_comm

/-- Literal pieces hold no class that could fail to read. -/
theorem firstBadClass_map_lit : ∀ cs : List Char, firstBadClass (cs.map Piece.lit) = none
  | [] => by simp [firstBadClass]
  | _ :: cs => by simpa [firstBadClass] using firstBadClass_map_lit cs

/-- Escaping yields the literal language: the glob made from a path by
    escaping `\`, `*`, `?`, `[`, `{` and a leading `!` always compiles, and
    it accepts a path exactly when the path is the one it was made from.
    Every other character, `/`, `]`, `}`, `,`, blanks, line breaks and
    non-ASCII text included, stands for itself. -/
theorem literal_glob_accepts_only (s : String) :
    (compile (literalGlob s)).isOk = true ∧ ∀ t : String, Accepts (literalGlob s) t ↔ t = s := by
  have hneg : (literalGlob s).toList.head? ≠ some '!' := by
    simpa [literalGlob] using head_literalText_ne_bang s.toList
  have hread : piecesOf (literalGlob s).toList true true = s.toList.map Piece.lit := by
    simpa [literalGlob] using piecesOf_literalText s.toList true true
  refine ⟨?_, fun t => ?_⟩
  · rw [compile_isOk_iff hneg, hread]
    exact firstBadClass_map_lit _
  · rw [accepts_iff hneg, hread, mem_seqLang_map_lit, String.toList_inj]
    exact ⟨fun h => h.2, fun h => ⟨firstBadClass_map_lit _, h⟩⟩

end ChangeFilter.Glob
