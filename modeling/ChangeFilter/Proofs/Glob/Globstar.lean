import ChangeFilter.Proofs.Glob.Reading

/-! # Glob patterns: globstar segment laws

    A `**` that fills a whole segment spans directories. Written before a
    body, `**/` lets the body match at any depth; written after it, `/**`
    lets the body match a directory and everything below it; written
    between two bodies, `/**/` joins them across any number of directories.

    The laws hold as long as writing the globstar next to a body does not
    change how the body is read. A body may not end in a lone backslash,
    which would escape the `/`; the left body of `/**/` may not leave a
    class or group open, which the right body could close; and a body that
    already ends in a globstar reads differently once another one follows:
    `**/**/x` matches `x`, while `a/**/**` no longer matches `a`.

    Main statements:
    * `accepts_globstar_segments` — the trailing, leading and inner laws;
    * `inner_globstar_after_globstar` — the inner law fails when the left
      body is `**`. -/

namespace ChangeFilter.Glob

open Language

/-! ## The readings behind the laws -/

/-- `B/**` reads as `B` followed by a trailing globstar, up to a final `**`
    of `B` that the `/` turns into `**/`; both consume the same texts. -/
theorem reading_trailing {B : List Char} (hesc : endsEscaped B = false)
    (hsub : (piecesOf B true true).getLast? ≠ some .subtree) :
    Piece.seqLang (piecesOf (B ++ ['/', '*', '*']) true true) =
        Piece.seqLang (piecesOf B true true) * Piece.subtree.lang ∧
      (firstBadClass (piecesOf (B ++ ['/', '*', '*']) true true) = none ↔
        firstBadClass (piecesOf B true true) = none) := by
  have hstars : piecesOf ['*', '*'] true true = [.anything] :=
    piecesOf_star_anything (by decide) (by decide)
  rcases piecesOf_append_slash (T := ['*', '*']) (a := true) (e := true) hesc (.inr (by simp))
    with h | ⟨pre, hB, hE⟩ | ⟨pre, hB, -⟩
  · have hslash : piecesOf ['/', '*', '*'] true true = [.subtree] := by
      rw [piecesOf.eq_4]
      simp [isStarRun]
    rw [h, hslash, seqLang_append, firstBadClass_append]
    simp [firstBadClass]
  · -- `B` ended in a bare `**`: `**/**` and `**/**` with `/**` agree
    rw [hE, hstars, hB, seqLang_append, seqLang_append, firstBadClass_append,
      firstBadClass_append]
    simp only [seqLang_cons, seqLang_nil, mul_one, lang_anything, dirs_mul_top, mul_assoc,
      top_mul_subtree]
    simp [firstBadClass]
  · exact absurd (by simp [hB]) hsub

/-- `**/B` reads as `**/` followed by `B`. -/
theorem reading_leading (B : List Char) :
    piecesOf ('*' :: '*' :: '/' :: B) true true = .dirs :: piecesOf B true true :=
  @piecesOf_starRun_slash ['*', '*'] (by decide) B true

/-- `P/**/S` reads as `P`, then `/` and `**/`, then `S`, up to a trailing
    `/**` of `P` that the extra `**/` absorbs. -/
theorem reading_inner {P S : List Char} (hesc : endsEscaped P = false)
    (hopen : leavesOpen P = false)
    (hany : (piecesOf P true true).getLast? ≠ some .anything) :
    Piece.seqLang (piecesOf (P ++ '/' :: '*' :: '*' :: '/' :: S) true true) =
        Piece.seqLang (piecesOf P true true) *
          ({['/']} * (Piece.dirs.lang * Piece.seqLang (piecesOf S true true))) ∧
      (firstBadClass (piecesOf (P ++ '/' :: '*' :: '*' :: '/' :: S) true true) = none ↔
        firstBadClass (piecesOf P true true) = none ∧
          firstBadClass (piecesOf S true true) = none) := by
  have hslash : piecesOf ('/' :: '*' :: '*' :: '/' :: S) true true =
      .lit '/' :: .dirs :: piecesOf S true true := by
    rw [piecesOf.eq_4, if_neg (by simp [isStarRun])]
    rw [reading_leading]
  rcases piecesOf_append_slash (T := '*' :: '*' :: '/' :: S) (a := true) (e := true) hesc (.inl hopen)
    with h | ⟨pre, hB, -⟩ | ⟨pre, hB, hE⟩
  · rw [h, hslash, seqLang_append, firstBadClass_append]
    simp [firstBadClass]
  · exact absurd (by simp [hB]) hany
  · -- `P` ended in a trailing `/**`, whose texts the `/**/` after it already
    -- covers
    rw [hE, hB, reading_leading, seqLang_append, seqLang_append, firstBadClass_append,
      firstBadClass_append]
    refine ⟨?_, by simp [firstBadClass]⟩
    simp only [seqLang_cons, seqLang_nil, mul_one, lang_lit, mul_assoc]
    set L := Piece.seqLang (piecesOf S true true)
    calc Piece.seqLang pre * ({['/']} * (Piece.dirs.lang * (Piece.dirs.lang * L)))
        = Piece.seqLang pre * ({['/']} * (Piece.dirs.lang * L)) := by
          rw [← mul_assoc Piece.dirs.lang, dirs_mul_dirs]
      _ = Piece.seqLang pre * (Piece.subtree.lang * ({['/']} * (Piece.dirs.lang * L))) := by
          rw [← mul_assoc _ _ L, ← mul_assoc Piece.subtree.lang, subtree_mul_slash_mul_dirs]

/-! ## Paths as text -/

/-- A path splits across a concatenation of languages as text does. -/
theorem toList_mem_mul {s : String} {l m : Language Char} :
    s.toList ∈ l * m ↔ ∃ t u : String, s = t ++ u ∧ t.toList ∈ l ∧ u.toList ∈ m := by
  rw [mem_mul]
  constructor
  · rintro ⟨a, ha, b, hb, h⟩
    refine ⟨String.ofList a, String.ofList b, ?_, by simpa using ha, by simpa using hb⟩
    rw [String.ext_iff]
    simp [h]
  · rintro ⟨t, u, rfl, ht, hu⟩
    exact ⟨t.toList, ht, u.toList, hu, by simp⟩

theorem toList_mem_dirs {u : String} :
    u.toList ∈ Piece.dirs.lang ↔ u = "" ∨ ∃ v, u = v ++ "/" := by
  rw [mem_dirs, String.toList_eq_nil_iff]
  constructor
  · rintro (h | ⟨v, hv⟩)
    · exact .inl h
    · exact .inr ⟨String.ofList v, by rw [String.ext_iff]; simp [hv]⟩
  · rintro (h | ⟨v, rfl⟩)
    · exact .inl h
    · exact .inr ⟨v.toList, by simp⟩

theorem toList_mem_subtree {w : String} :
    w.toList ∈ Piece.subtree.lang ↔ w = "" ∨ ∃ u, w = "/" ++ u := by
  rw [mem_subtree, String.toList_eq_nil_iff]
  constructor
  · rintro (h | ⟨v, hv⟩)
    · exact .inl h
    · exact .inr ⟨String.ofList v, by rw [String.ext_iff]; simp [← hv]⟩
  · rintro (h | ⟨v, rfl⟩)
    · exact .inl h
    · exact .inr ⟨v.toList, by simp⟩

theorem toList_mem_slash {w : String} : w.toList ∈ ({['/']} : Language Char) ↔ w = "/" := by
  rw [mem_singleton_lang, String.ext_iff]
  rfl

/-! ## The laws -/

/-- Trailing globstar: `B/**` matches what `B` matches, and everything below
    it, for a body that does not end in a trailing `/**` itself. -/
theorem accepts_trailing (B s : String) (hneg : B.toList.head? ≠ some '!')
    (hesc : endsEscaped B.toList = false)
    (hsub : (piecesOf B.toList true true).getLast? ≠ some .subtree) :
    Accepts (B ++ "/**") s ↔ ∃ t, Accepts B t ∧ (s = t ∨ ∃ u, s = t ++ "/" ++ u) := by
  have hneg' : (B ++ "/**").toList.head? ≠ some '!' := by
    rw [String.toList_append]
    exact head_append_ne_bang hneg (by decide)
  have hlist : (B ++ "/**").toList = B.toList ++ ['/', '*', '*'] := by simp
  obtain ⟨hlang, hbad⟩ := reading_trailing hesc hsub
  rw [accepts_iff hneg', hlist, hlang, hbad, toList_mem_mul]
  -- a path splits into a match `t` of the body and what the trailing
  -- globstar consumes: nothing, or a `/` and anything after it
  constructor
  · rintro ⟨hb, t, w, rfl, ht, hw⟩
    refine ⟨t, (accepts_iff hneg).2 ⟨hb, ht⟩, ?_⟩
    rcases toList_mem_subtree.1 hw with rfl | ⟨u, rfl⟩
    · exact .inl (by simp)
    · exact .inr ⟨u, by simp [String.append_assoc]⟩
  · rintro ⟨t, ht, hs⟩
    obtain ⟨hb, ht⟩ := (accepts_iff hneg).1 ht
    refine ⟨hb, ?_⟩
    rcases hs with rfl | ⟨u, rfl⟩
    · exact ⟨s, "", by simp, ht, toList_mem_subtree.2 (.inl rfl)⟩
    · exact ⟨t, "/" ++ u, by simp [String.append_assoc], ht, toList_mem_subtree.2 (.inr ⟨u, rfl⟩)⟩

/-- Leading globstar: `**/B` matches what `B` matches, below any run of
    directories. -/
theorem accepts_leading (B s : String) (hneg : B.toList.head? ≠ some '!') :
    Accepts ("**/" ++ B) s ↔ ∃ u t, s = u ++ t ∧ (u = "" ∨ ∃ v, u = v ++ "/") ∧ Accepts B t := by
  have hlist : ("**/" ++ B).toList = '*' :: '*' :: '/' :: B.toList := by simp
  have hneg' : ("**/" ++ B).toList.head? ≠ some '!' := by
    rw [hlist]
    exact head_ne_bang_of_head (by decide)
  have hbad : firstBadClass (.dirs :: piecesOf B.toList true true) =
      firstBadClass (piecesOf B.toList true true) := by
    simp [firstBadClass]
  rw [accepts_iff hneg', hlist, reading_leading, seqLang_cons, hbad, toList_mem_mul]
  constructor
  · rintro ⟨hb, u, t, rfl, hu, ht⟩
    exact ⟨u, t, rfl, toList_mem_dirs.1 hu, (accepts_iff hneg).2 ⟨hb, ht⟩⟩
  · rintro ⟨u, t, rfl, hu, ht⟩
    obtain ⟨hb, ht⟩ := (accepts_iff hneg).1 ht
    exact ⟨hb, u, t, rfl, toList_mem_dirs.2 hu, ht⟩

/-- Inner globstar: `P/**/S` matches a match of `P` and a match of `S` joined
    by `/` and any run of directories, for a left body that leaves nothing
    open and does not end in a bare `**`. -/
theorem accepts_inner (P S s : String) (hnegP : P.toList.head? ≠ some '!')
    (hnegS : S.toList.head? ≠ some '!') (hesc : endsEscaped P.toList = false)
    (hopen : leavesOpen P.toList = false)
    (hany : (piecesOf P.toList true true).getLast? ≠ some .anything) :
    Accepts (P ++ "/**/" ++ S) s ↔
      ∃ p u t, s = p ++ "/" ++ u ++ t ∧ Accepts P p ∧ (u = "" ∨ ∃ v, u = v ++ "/") ∧
        Accepts S t := by
  have hlist : (P ++ "/**/" ++ S).toList = P.toList ++ '/' :: '*' :: '*' :: '/' :: S.toList := by
    simp
  have hneg' : (P ++ "/**/" ++ S).toList.head? ≠ some '!' := by
    rw [hlist]
    exact head_append_ne_bang hnegP (head_ne_bang_of_head (by decide))
  obtain ⟨hlang, hbad⟩ := reading_inner (S := S.toList) hesc hopen hany
  rw [accepts_iff hneg', hlist, hlang, hbad, toList_mem_mul]
  constructor
  · rintro ⟨⟨hbP, hbS⟩, p, w, rfl, hp, hw⟩
    -- after the match of `P` come the `/`, the run of directories and the
    -- match of `S`, peeled off in that order
    obtain ⟨sl, w', rfl, hsl, hw'⟩ := toList_mem_mul.1 hw
    obtain ⟨u, t, rfl, hu, ht⟩ := toList_mem_mul.1 hw'
    rw [toList_mem_slash] at hsl
    subst hsl
    exact ⟨p, u, t, by simp [String.append_assoc], (accepts_iff hnegP).2 ⟨hbP, hp⟩,
      toList_mem_dirs.1 hu, (accepts_iff hnegS).2 ⟨hbS, ht⟩⟩
  · rintro ⟨p, u, t, rfl, hp, hu, ht⟩
    obtain ⟨hbP, hp⟩ := (accepts_iff hnegP).1 hp
    obtain ⟨hbS, ht⟩ := (accepts_iff hnegS).1 ht
    refine ⟨⟨hbP, hbS⟩, p, "/" ++ (u ++ t), by simp [String.append_assoc], hp, ?_⟩
    exact toList_mem_mul.2 ⟨"/", u ++ t, rfl, toList_mem_slash.2 rfl,
      toList_mem_mul.2 ⟨u, t, rfl, toList_mem_dirs.2 hu, ht⟩⟩

/-- The globstar segment laws: a trailing `/**` adds what lies below a match
    of the body, a leading `**/` lets the body match below any run of
    directories, and an inner `/**/` joins matches of its two sides across
    any run of directories. -/
theorem accepts_globstar_segments :
    (∀ B s : String, B.toList.head? ≠ some '!' → endsEscaped B.toList = false →
        (piecesOf B.toList true true).getLast? ≠ some .subtree →
        (Accepts (B ++ "/**") s ↔ ∃ t, Accepts B t ∧ (s = t ∨ ∃ u, s = t ++ "/" ++ u))) ∧
    (∀ B s : String, B.toList.head? ≠ some '!' →
        (Accepts ("**/" ++ B) s ↔
          ∃ u t, s = u ++ t ∧ (u = "" ∨ ∃ v, u = v ++ "/") ∧ Accepts B t)) ∧
    (∀ P S s : String, P.toList.head? ≠ some '!' → S.toList.head? ≠ some '!' →
        endsEscaped P.toList = false → leavesOpen P.toList = false →
        (piecesOf P.toList true true).getLast? ≠ some .anything →
        (Accepts (P ++ "/**/" ++ S) s ↔
          ∃ p u t, s = p ++ "/" ++ u ++ t ∧ Accepts P p ∧ (u = "" ∨ ∃ v, u = v ++ "/") ∧
            Accepts S t)) :=
  ⟨accepts_trailing, accepts_leading, accepts_inner⟩

/-- The laws at `src/**`, `**/*.md` and `src/**/*.py`, where every body is
    plain text. -/
theorem globstar_segments_at_src :
    ("src".toList.head? ≠ some '!' ∧ endsEscaped "src".toList = false ∧
      (piecesOf "src".toList true true).getLast? ≠ some .subtree ∧
      leavesOpen "src".toList = false ∧
      (piecesOf "src".toList true true).getLast? ≠ some .anything ∧
      "*.md".toList.head? ≠ some '!' ∧ "*.py".toList.head? ≠ some '!') ∧
    (Accepts ("src" ++ "/**") "src/a" ↔
      ∃ t, Accepts "src" t ∧ ("src/a" = t ∨ ∃ u, "src/a" = t ++ "/" ++ u)) ∧
    (Accepts ("**/" ++ "*.md") "docs/a.md" ↔
      ∃ u t, "docs/a.md" = u ++ t ∧ (u = "" ∨ ∃ v, u = v ++ "/") ∧ Accepts "*.md" t) ∧
    (Accepts ("src" ++ "/**/" ++ "*.py") "src/a/b.py" ↔
      ∃ p u t, "src/a/b.py" = p ++ "/" ++ u ++ t ∧ Accepts "src" p ∧
        (u = "" ∨ ∃ v, u = v ++ "/") ∧ Accepts "*.py" t) := by
  have hneg : "src".toList.head? ≠ some '!' := by decide
  have hesc : endsEscaped "src".toList = false := by decide +kernel
  have hopen : leavesOpen "src".toList = false := by decide +kernel
  have hlast : (piecesOf "src".toList true true).getLast? = some (.lit 'c') := by simp [piecesOf]
  have hsub : (piecesOf "src".toList true true).getLast? ≠ some .subtree := by
    rw [hlast]; simp
  have hany : (piecesOf "src".toList true true).getLast? ≠ some .anything := by
    rw [hlast]; simp
  exact ⟨⟨hneg, hesc, hsub, hopen, hany, by decide, by decide⟩,
    accepts_globstar_segments.1 "src" "src/a" hneg hesc hsub,
    accepts_globstar_segments.2.1 "*.md" "docs/a.md" (by decide),
    accepts_globstar_segments.2.2 "src" "*.py" "src/a/b.py" hneg (by decide) hesc hopen hany⟩

/-- The inner law fails for the left body `**`: its `**` becomes `**/` and
    may match nothing at all, so `**/**/x` matches `x`, which no text of the
    form `p/ux` is. -/
theorem inner_globstar_after_globstar :
    Accepts ("**" ++ "/**/" ++ "x") "x" ∧
      ¬ ∃ p u t, "x" = p ++ "/" ++ u ++ t ∧ Accepts "**" p ∧ (u = "" ∨ ∃ v, u = v ++ "/") ∧
        Accepts "x" t := by
  constructor
  · have hx : Accepts "x" "x" := by
      refine (accepts_iff (by decide)).2 ⟨by decide +kernel, ?_⟩
      simp [piecesOf]
    have hx' : Accepts ("**/" ++ "x") "x" :=
      (accepts_leading "x" "x" (by decide)).2 ⟨"", "x", rfl, .inl rfl, hx⟩
    have hxx : Accepts ("**/" ++ ("**/" ++ "x")) "x" :=
      (accepts_leading _ "x" (by decide)).2 ⟨"", "x", rfl, .inl rfl, hx'⟩
    exact hxx
  · rintro ⟨p, u, t, h, -⟩
    -- the text `x` holds no `/`
    have hl : ['x'] = p.toList ++ '/' :: (u.toList ++ t.toList) := by
      simpa using congrArg String.toList h
    have hslash : '/' ∈ ['x'] := by rw [hl]; simp
    simp at hslash

end ChangeFilter.Glob
