import ChangeFilter.Proofs.Glob.Slashes
import ChangeFilter.Proofs.Glob.BraceScan

/-! # Glob patterns: a brace group against its expansions

    The reader reads each alternative of a group on its own, with the segment
    edges it sees around the braces, and reads the text after the group as
    text after a group. An expansion `P + Ak + S` is read in one pass, where
    the edges of `Ak` are the characters of `P` and `S`. The two readings
    agree when the braces stand at seams: places where the reader reads the
    text on each side apart from the other.

    A body `B` and a text `T` meet at a seam when `B` does not end in a lone
    backslash, which would take the head of `T`; leaves no class or group open
    that `T` could close; does not end in `**`, which could be a globstar that
    `T` turns into another; and does not end in a `*` that a `*` at the head of
    `T` would extend. Across a seam `B` is read with the end flag `T` shows it
    and `T` with the start flag `B` leaves (`piecesOf_append_of_seam`).

    Where these fail the law fails by design: `src/{**,x}` reads its `**` as a
    bare globstar after `src/` and rejects `src`, which `src/**` accepts.

    Main statements:
    * `piecesOf_append_of_seam` — reading a body and a text across a seam;
    * `accepts_group_iff_expansion` — a group accepts what one of its
      expansions accepts;
    * `brace_globstar_at_edge` — `src/{**,x}` rejects `src`, which `src/**`
      accepts. -/

namespace ChangeFilter.Glob

open Language

/-! ## The flag a text leaves -/

/-- Whether a segment starts after a text that is read with `atStart` before
    it: after an empty text this is `atStart`, else whether the text ends in
    `/`. -/
def endsSegment : List Char → Bool → Bool
  | [], atStart => atStart
  | c :: rest, _ => endsSegment rest (c == '/')

theorem endsSegment_append_cons (xs : List Char) (c : Char) (ys : List Char) (a : Bool) :
    endsSegment (xs ++ c :: ys) a = endsSegment ys (c == '/') := by
  induction xs generalizing a with
  | nil => rfl
  | cons x xs ih => exact ih _

theorem endsSegment_of_suffix {c : Char} {ys cs : List Char} (h : c :: ys <:+ cs) (a : Bool) :
    endsSegment cs a = endsSegment ys (c == '/') := by
  obtain ⟨xs, rfl⟩ := h
  exact endsSegment_append_cons xs c ys a

theorem endsSegment_dropStars (cs : List Char) :
    endsSegment cs false = endsSegment (dropStars cs) false := by
  induction cs with
  | nil => rfl
  | cons c rest ih =>
    by_cases hc : c = '*'
    · subst hc
      simpa [dropStars, endsSegment] using ih
    · simp [dropStars, hc]

/-! ## Runs of stars at the edges -/

theorem star_suffix_of_all {cs : List Char} (hne : cs ≠ []) (hall : ∀ c ∈ cs, c = '*') :
    ['*'] <:+ cs := by
  rw [List.singleton_suffix_iff_getLast?_eq_some, List.getLast?_eq_some_getLast hne]
  exact congrArg some (hall _ (List.getLast_mem hne))

/-- A run of at least two `*` ends in `**`. -/
theorem globstar_suffix_of_isStarRun {cs : List Char} (h : isStarRun cs = true) :
    ['*', '*'] <:+ cs := by
  simp only [isStarRun, Bool.and_eq_true, decide_eq_true_eq, List.all_eq_true,
    beq_iff_eq] at h
  obtain ⟨hlen, hall⟩ := h
  obtain ⟨n, hn⟩ : ∃ n, cs.length = n + 2 := ⟨cs.length - 2, by omega⟩
  rw [List.eq_replicate_iff.2 ⟨hn, hall⟩, List.replicate_add]
  exact List.suffix_append _ _

theorem star_suffix_of_isStarRun {cs : List Char} (h : isStarRun cs = true) : ['*'] <:+ cs :=
  (List.suffix_cons _ _).trans (globstar_suffix_of_isStarRun h)

/-- A text that does not end in `**`, followed by one that does not start with
    `*`, is no run of stars. -/
theorem isStarRun_append_eq_false {A S : List Char} (hA : ¬['*', '*'] <:+ A)
    (hS : S.head? ≠ some '*') : isStarRun (A ++ S) = false := by
  cases S with
  | nil =>
    rw [List.append_nil]
    cases h : isStarRun A
    · rfl
    · exact absurd (globstar_suffix_of_isStarRun h) hA
  | cons s S =>
    have hs : s ≠ '*' := fun h => hS (by simp [h])
    simp [isStarRun, hs]

/-- A run of stars over two non-empty texts joins a final `*` of the first to
    a leading `*` of the second. -/
theorem stars_meet_of_isStarRun_append {xs ys : List Char} (h : isStarRun (xs ++ ys) = true)
    (hx : xs ≠ []) (hy : ys ≠ []) : ['*'] <:+ xs ∧ ys.head? = some '*' := by
  simp only [isStarRun, Bool.and_eq_true, List.all_eq_true, beq_iff_eq, List.mem_append] at h
  obtain ⟨-, hall⟩ := h
  refine ⟨star_suffix_of_all hx fun c hc => hall c (.inl hc), ?_⟩
  obtain ⟨y, ys', rfl⟩ := List.exists_cons_of_ne_nil hy
  simp [hall y (.inr List.mem_cons_self)]

/-- A group ends in its `}`: the text after the group is what that `}`
    leaves. -/
theorem close_brace_suffix {rest : List Char} {close : Nat} {alts : List (List Char)}
    (h : matchBrace ('{' :: rest) = some (close, alts)) :
    '}' :: ('{' :: rest).drop (close + 1) <:+ '{' :: rest := by
  obtain ⟨marks, hmarks, rfl, -⟩ := matchBrace_eq_some.1 h
  refine ⟨'{' :: [','].intercalate
    ((consecutive marks).map fun p => between ('{' :: rest) p.1 p.2), ?_⟩
  calc _ = ('{' :: rest).take (marks.getLastD 0 + 1) ++
        ('{' :: rest).drop (marks.getLastD 0 + 1) := by
        rw [← groupText_eq hmarks]
        simp
    _ = '{' :: rest := List.take_append_drop _ _

/-! ## Seams -/

/-- A body `B` and a text `T` written after it, at the end flag `e`, are read
    apart: `B` does not end in a lone backslash, leaves no class or group open
    that `T` could close, does not end in `**`, and does not end in a `*` that
    a leading `*` of `T` would extend; and `T` is not a run of stars at the end
    of the text, which a `/` ending `B` would make a globstar. -/
structure Seam (B T : List Char) (e : Bool) : Prop where
  escaped : endsEscaped B = false
  closed : leavesOpen B = false ∨ (']' ∉ T ∧ '}' ∉ T)
  globstar : ¬['*', '*'] <:+ B
  stars : ¬['*'] <:+ B ∨ T.head? ≠ some '*'
  run : ¬(e = true ∧ isStarRun T = true)

namespace Seam

variable {B B' T : List Char} {e : Bool}

theorem of_suffix (h : Seam B T e) (hB : B' <:+ B) (hesc : endsEscaped B' = false)
    (hopen : leavesOpen B' = false ∨ (']' ∉ T ∧ '}' ∉ T)) : Seam B' T e where
  escaped := hesc
  closed := hopen
  globstar := fun h' => h.globstar (h'.trans hB)
  stars := h.stars.imp_left fun hB' h' => hB' (h'.trans hB)
  run := h.run

theorem tail {c : Char} {rest : List Char} (h : Seam (c :: rest) T e) (h1 : c ≠ '\\')
    (h2 : c ≠ '[') (h3 : c ≠ '{') : Seam rest T e :=
  let ⟨hesc, hopen⟩ := sideConds_plain h1 h2 h3 h.escaped h.closed
  h.of_suffix (List.suffix_cons c rest) hesc hopen

/-- A `/` before a tail `rest` of `B` takes no globstar from `rest ++ T` that it
    did not take from `rest` alone. -/
theorem not_run_append {rest : List Char} (h : Seam B T e) (hrest : rest <:+ B)
    (hcond : ¬(startsSegment T e = true ∧ isStarRun rest = true)) :
    ¬(e = true ∧ isStarRun (rest ++ T) = true) := by
  rintro ⟨he, hrun⟩
  by_cases hT : T = []
  · subst hT
    rw [List.append_nil] at hrun
    exact hcond ⟨he, hrun⟩
  by_cases hr : rest = []
  · subst hr
    exact h.run ⟨he, hrun⟩
  obtain ⟨hlast, hhead⟩ := stars_meet_of_isStarRun_append hrun hr hT
  rcases h.stars with hB | hT'
  · exact hB (hlast.trans hrest)
  · exact hT' hhead

/-- After a leading `*` of `B`, either more than stars remain or `T` does not
    extend the run. -/
theorem dropStars_or {rest : List Char} (h : Seam ('*' :: rest) T e) :
    dropStars rest ≠ [] ∨ T.head? ≠ some '*' := by
  by_cases hd : dropStars rest = []
  · -- `'*' :: rest` is all stars, so it ends in `*`
    have hall := dropStars_eq_nil_iff.1 hd
    refine .inr (h.stars.resolve_left fun hB => hB (star_suffix_of_all (List.cons_ne_nil _ _) ?_))
    simpa using hall
  · exact .inl hd

end Seam

/-! ## Reading across a seam -/

/-- Reading a body `B` and then a text `T` across a seam: `B` is read as on its
    own, with the end flag `T` shows it, and `T` with the start flag `B`
    leaves. -/
theorem piecesOf_append_of_seam {B T : List Char} {a e : Bool} (h : Seam B T e) :
    piecesOf (B ++ T) a e =
      piecesOf B a (startsSegment T e) ++ piecesOf T (endsSegment B a) e := by
  -- induction on the reading of `B`, whose end flag is the one `T` shows
  suffices hall : ∀ B a atEnd, atEnd = startsSegment T e → Seam B T e →
      piecesOf (B ++ T) a e = piecesOf B a atEnd ++ piecesOf T (endsSegment B a) e from
    hall B a _ rfl h
  intro B a atEnd
  induction B, a, atEnd using piecesOf.induct with
  | case1 a atEnd =>
    intro _ _
    rw [List.nil_append, piecesOf.eq_1, List.nil_append]
    rfl
  | case2 a atEnd =>
    intro _ h
    exact absurd h.escaped (by simp [endsEscaped])
  | case3 a atEnd c rest hcond =>
    intro _ h
    exact absurd ((globstar_suffix_of_isStarRun hcond.2.2).trans
      ((List.suffix_cons c rest).trans (List.suffix_cons _ _))) h.globstar
  | case4 a atEnd c rest hcond ih =>
    rintro rfl h
    have hsuf : rest <:+ '\\' :: c :: rest := (List.suffix_cons c rest).trans (List.suffix_cons _ _)
    have hcond' : ¬(c = '/' ∧ e = true ∧ isStarRun (rest ++ T) = true) := by
      rintro ⟨hc, he, hrun⟩
      exact h.not_run_append hsuf (fun hs => hcond ⟨hc, hs⟩) ⟨he, hrun⟩
    have hrest : Seam rest T e :=
      h.of_suffix hsuf (by rw [← endsEscaped.eq_3 c rest]; exact h.escaped)
        (by rw [← leavesOpen.eq_2 c rest]; exact h.closed)
    rw [List.cons_append, List.cons_append, piecesOf.eq_3, piecesOf.eq_3, if_neg hcond,
      if_neg hcond', ih rfl hrest]
    rfl
  | case5 a atEnd rest hcond =>
    intro _ h
    exact absurd ((globstar_suffix_of_isStarRun hcond.2).trans (List.suffix_cons _ _)) h.globstar
  | case6 a atEnd rest hcond ih =>
    rintro rfl h
    have hcond' := h.not_run_append (List.suffix_cons _ _) hcond
    rw [List.cons_append, piecesOf.eq_4, piecesOf.eq_4, if_neg hcond, if_neg hcond',
      ih rfl (h.tail (by decide) (by decide) (by decide))]
    rfl
  | case7 a atEnd rest hcond hdrop =>
    -- `B` is a run of at least two stars
    intro _ h
    have hlen : 1 ≤ rest.length := by
      have := hcond.1
      rw [hdrop] at this
      simpa using this
    have hrun : isStarRun ('*' :: rest) = true := by
      simp only [isStarRun, List.length_cons, List.all_cons, Bool.and_eq_true, decide_eq_true_eq,
        beq_self_eq_true, Bool.true_and, List.all_eq_true, beq_iff_eq]
      exact ⟨by omega, dropStars_eq_nil_iff.1 hdrop⟩
    exact absurd (globstar_suffix_of_isStarRun hrun) h.globstar
  | case8 a atEnd rest hcond head after hdrop ih =>
    rintro rfl h
    have hor : dropStars rest ≠ [] ∨ T.head? ≠ some '*' := .inl (by simp [hdrop])
    have hext := (starCond_append hor a e).2 hcond
    have hd : dropStars (rest ++ T) = head :: (after ++ T) := by
      rw [dropStars_append_of_head hor, hdrop, List.cons_append]
    -- the run is followed by a `/`, which the globstar takes with it
    have hhead : head = '/' := by
      have := hcond.2.2
      rw [hdrop] at this
      simpa [startsSegment] using this
    have hwalk : dropStars rest = '/' :: after := hhead ▸ hdrop
    obtain ⟨hescRun, hopenRun⟩ := sideConds_star h.escaped h.closed
    rw [hwalk] at hescRun hopenRun
    obtain ⟨hesc', hopen'⟩ := sideConds_plain (by decide) (by decide) (by decide) hescRun hopenRun
    have hsuf : dropStars rest <:+ rest := List.dropWhile_suffix _
    rw [hwalk] at hsuf
    have hafter : after <:+ '*' :: rest :=
      ((List.suffix_cons _ _).trans hsuf).trans (List.suffix_cons _ _)
    rw [piecesOf_star_dirs hcond hdrop, List.cons_append, piecesOf_star_dirs hext hd,
      ih rfl (h.of_suffix hafter hesc' hopen')]
    -- the flag after the run is the one after its `/`
    have hflag : endsSegment ('*' :: rest) a = endsSegment after true := by
      show endsSegment rest false = _
      rw [endsSegment_dropStars, hwalk]
      rfl
    rw [hflag]
    rfl
  | case9 a atEnd rest hcond ih =>
    rintro rfl h
    have hor := h.dropStars_or
    have hext : ¬((rest ++ T).length - (dropStars (rest ++ T)).length ≥ 1 ∧
        a = true ∧ startsSegment (dropStars (rest ++ T)) e = true) := by
      rwa [starCond_append hor]
    obtain ⟨hesc', hopen'⟩ := sideConds_star h.escaped h.closed
    have hsuf : dropStars rest <:+ '*' :: rest := (List.dropWhile_suffix _).trans (List.suffix_cons _ _)
    rw [piecesOf_star_run hcond, List.cons_append, piecesOf_star_run hext,
      dropStars_append_of_head hor, ih rfl (h.of_suffix hsuf hesc' hopen')]
    rw [show endsSegment ('*' :: rest) a = endsSegment (dropStars rest) false from
      endsSegment_dropStars rest]
    rfl
  | case10 a atEnd rest ih =>
    rintro rfl h
    rw [List.cons_append, piecesOf.eq_6, piecesOf.eq_6,
      ih rfl (h.tail (by decide) (by decide) (by decide))]
    rfl
  | case11 a atEnd rest neg body after hspan ih =>
    rintro rfl h
    obtain ⟨hesc', hopen'⟩ := sideConds_bracket hspan h.escaped h.closed
    have hclose := classSpan_close_suffix hspan
    have hafter : after <:+ '[' :: rest :=
      ((List.suffix_cons _ _).trans hclose).trans (List.suffix_cons _ _)
    rw [piecesOf_bracket hspan, List.cons_append, piecesOf_bracket (classSpan_append hspan),
      ih rfl (h.of_suffix hafter hesc' hopen')]
    rw [show endsSegment ('[' :: rest) a = endsSegment after false from
      endsSegment_of_suffix hclose false]
    rfl
  | case12 a atEnd rest hspan ih =>
    -- an unclosed `[` stays a plain character only if the text has no `]`
    rintro rfl h
    obtain ⟨hesc', hno⟩ := sideConds_bracket_none hspan h.escaped h.closed
    rw [piecesOf_bracket_none hspan, List.cons_append,
      piecesOf_bracket_none (classSpan_append_none hspan hno.1),
      ih rfl (h.of_suffix (List.suffix_cons _ _) hesc' (.inr hno))]
    rfl
  | case13 a atEnd rest close alts hbrace after ends _ ih =>
    -- the group closes inside `B`, at a `}` after which `B` goes on
    rintro rfl h
    obtain ⟨hesc', hopen'⟩ := sideConds_group hbrace h.escaped h.closed
    have hclose := close_brace_suffix hbrace
    rw [List.cons_append, piecesOf_matchBrace (matchBrace_append hbrace T),
      drop_append_of_matchBrace hbrace, startsSegment_append, piecesOf_matchBrace hbrace,
      ih rfl (h.of_suffix ((List.suffix_cons _ _).trans hclose) hesc' hopen'),
      endsSegment_of_suffix hclose]
    rfl
  | case14 a atEnd rest hnone ih =>
    rintro rfl h
    obtain ⟨hnone', hesc', hopen'⟩ := sideConds_brace_none hnone h.escaped h.closed
    rw [piecesOf_brace_none (matchBrace_eq_none.1 hnone), List.cons_append,
      piecesOf_brace_none (matchBrace_eq_none.1 hnone'),
      ih rfl (h.of_suffix (List.suffix_cons _ _) hesc' hopen')]
    rfl
  | case15 a atEnd c rest h1 h2 h3 h4 h5 h6 h7 ih =>
    rintro rfl h
    have h0 : c ≠ '\\' := ne_backslash_of_plain h1 h2
    rw [piecesOf.eq_9 _ _ c rest h1 h2 h3 h4 h5 h6 h7, List.cons_append,
      piecesOf.eq_9 _ _ c _ (fun h _ => h0 h) (fun _ _ h _ => h0 h) h3 h4 h5 h6 h7,
      ih rfl (h.tail h0 h6 h7)]
    -- a plain character other than `/` starts no segment after it
    have hc : (c == '/') = false := by simpa using h3
    show _ = _ ++ piecesOf T (endsSegment rest (c == '/')) e
    rw [hc]
    rfl

/-- A body that ends in neither `*` nor `}` meets any text that does not make
    it a trailing globstar at a seam. -/
theorem Seam.of_plain_end {B T : List Char} {e : Bool} (hesc : endsEscaped B = false)
    (hopen : leavesOpen B = false) (hstar : ¬['*'] <:+ B)
    (hrun : ¬(e = true ∧ isStarRun T = true)) : Seam B T e where
  escaped := hesc
  closed := .inl hopen
  globstar := fun h => hstar ((List.suffix_cons _ _).trans h)
  stars := .inl hstar
  run := hrun

/-! ## Flags a reading does not look at -/

/-- Ending in neither `*` nor `}` passes to every tail. -/
theorem plainEnd_of_suffix {B B' : List Char} (h : ¬['*'] <:+ B ∧ ¬['}'] <:+ B)
    (hB : B' <:+ B) : ¬['*'] <:+ B' ∧ ¬['}'] <:+ B' :=
  ⟨fun h' => h.1 (h'.trans hB), fun h' => h.2 (h'.trans hB)⟩

/-- The end flag reaches only a star run or a group that ends the text, so a
    body that ends in neither `*` nor `}` reads the same at any end. -/
theorem piecesOf_end_flag {B : List Char} (hstar : ¬['*'] <:+ B) (hbrace : ¬['}'] <:+ B)
    (a e e' : Bool) : piecesOf B a e = piecesOf B a e' := by
  -- induction on the reading at `e`; every tail read on ends where `B` does
  suffices hall : ∀ B a e, ¬['*'] <:+ B ∧ ¬['}'] <:+ B → piecesOf B a e = piecesOf B a e' from
    hall B a e ⟨hstar, hbrace⟩
  intro B a e
  induction B, a, e using piecesOf.induct with
  | case1 a e =>
    intro _
    rw [piecesOf.eq_1, piecesOf.eq_1]
  | case2 a e =>
    intro _
    rw [piecesOf.eq_2, piecesOf.eq_2]
  | case3 a e c rest hcond =>
    intro hend
    exact absurd ((star_suffix_of_isStarRun hcond.2.2).trans
      ((List.suffix_cons c rest).trans (List.suffix_cons _ _))) hend.1
  | case4 a e c rest hcond ih =>
    intro hend
    have hsuf : rest <:+ '\\' :: c :: rest := (List.suffix_cons c rest).trans (List.suffix_cons _ _)
    have hrest : ¬isStarRun rest = true := fun hr => hend.1 ((star_suffix_of_isStarRun hr).trans hsuf)
    rw [piecesOf.eq_3, piecesOf.eq_3, if_neg (by simp [hrest]), if_neg (by simp [hrest]),
      ih (plainEnd_of_suffix hend hsuf)]
  | case5 a e rest hcond =>
    intro hend
    exact absurd ((star_suffix_of_isStarRun hcond.2).trans (List.suffix_cons _ _)) hend.1
  | case6 a e rest hcond ih =>
    intro hend
    have hsuf := List.suffix_cons '/' rest
    have hrest : ¬isStarRun rest = true := fun hr => hend.1 ((star_suffix_of_isStarRun hr).trans hsuf)
    rw [piecesOf.eq_4, piecesOf.eq_4, if_neg (by simp [hrest]), if_neg (by simp [hrest]),
      ih (plainEnd_of_suffix hend hsuf)]
  | case7 a e rest hcond hdrop =>
    intro hend
    exact absurd (star_suffix_of_all (List.cons_ne_nil _ _)
      (by simpa using dropStars_eq_nil_iff.1 hdrop)) hend.1
  | case8 a e rest hcond head after hdrop ih =>
    intro hend
    -- the run is followed by text, whose head alone decides the globstar
    have hcond' : rest.length - (dropStars rest).length ≥ 1 ∧ a = true ∧
        startsSegment (dropStars rest) e' = true := by
      rw [hdrop] at hcond ⊢
      exact hcond
    have hd : dropStars rest <:+ rest := List.dropWhile_suffix _
    rw [hdrop] at hd
    have hsuf : after <:+ '*' :: rest :=
      ((List.suffix_cons _ _).trans hd).trans (List.suffix_cons _ _)
    rw [piecesOf_star_dirs hcond hdrop, piecesOf_star_dirs hcond' hdrop,
      ih (plainEnd_of_suffix hend hsuf)]
  | case9 a e rest hcond ih =>
    intro hend
    -- `B` does not end in `*`, so more than stars follow the leading one
    have hne : dropStars rest ≠ [] := fun hd =>
      hend.1 (star_suffix_of_all (List.cons_ne_nil _ _) (by simpa using dropStars_eq_nil_iff.1 hd))
    obtain ⟨d, ds, hd⟩ := List.exists_cons_of_ne_nil hne
    have hcond' : ¬(rest.length - (dropStars rest).length ≥ 1 ∧ a = true ∧
        startsSegment (dropStars rest) e' = true) := by
      rw [hd] at hcond ⊢
      exact hcond
    have hsuf : dropStars rest <:+ '*' :: rest :=
      (List.dropWhile_suffix _).trans (List.suffix_cons _ _)
    rw [piecesOf_star_run hcond, piecesOf_star_run hcond', ih (plainEnd_of_suffix hend hsuf)]
  | case10 a e rest ih =>
    intro hend
    rw [piecesOf.eq_6, piecesOf.eq_6, ih (plainEnd_of_suffix hend (List.suffix_cons _ _))]
  | case11 a e rest neg body after hspan ih =>
    intro hend
    have hsuf : after <:+ '[' :: rest := (classSpan_suffix hspan).trans (List.suffix_cons _ _)
    rw [piecesOf_bracket hspan, piecesOf_bracket hspan, ih (plainEnd_of_suffix hend hsuf)]
  | case12 a e rest hspan ih =>
    intro hend
    rw [piecesOf_bracket_none hspan, piecesOf_bracket_none hspan,
      ih (plainEnd_of_suffix hend (List.suffix_cons _ _))]
  | case13 a e rest close alts hbrace after ends _ ih =>
    intro hend
    have hclose := close_brace_suffix hbrace
    -- the group does not end `B`, so the text after it shows the end flag
    have hne : ('{' :: rest).drop (close + 1) ≠ [] := by
      intro hnil
      rw [hnil] at hclose
      exact hend.2 hclose
    obtain ⟨d, ds, hd⟩ := List.exists_cons_of_ne_nil hne
    have hends : startsSegment (('{' :: rest).drop (close + 1)) e =
        startsSegment (('{' :: rest).drop (close + 1)) e' := by
      rw [hd]
      rfl
    rw [piecesOf_matchBrace hbrace, piecesOf_matchBrace hbrace, hends,
      ih (plainEnd_of_suffix hend ((List.suffix_cons _ _).trans hclose))]
  | case14 a e rest hnone ih =>
    intro hend
    rw [piecesOf_brace_none (matchBrace_eq_none.1 hnone),
      piecesOf_brace_none (matchBrace_eq_none.1 hnone),
      ih (plainEnd_of_suffix hend (List.suffix_cons _ _))]
  | case15 a e c rest h1 h2 h3 h4 h5 h6 h7 ih =>
    intro hend
    rw [piecesOf.eq_9 _ _ c rest h1 h2 h3 h4 h5 h6 h7, piecesOf.eq_9 _ _ c rest h1 h2 h3 h4 h5 h6 h7,
      ih (plainEnd_of_suffix hend (List.suffix_cons _ _))]

/-- The start flag reaches only a leading star run or group, so a text that
    starts with neither `*` nor `{` reads the same after any text. -/
theorem piecesOf_start_flag {S : List Char} (hstar : S.head? ≠ some '*')
    (hbrace : S.head? ≠ some '{') (a a' e : Bool) : piecesOf S a e = piecesOf S a' e := by
  cases S with
  | nil => rw [piecesOf.eq_1, piecesOf.eq_1]
  | cons c rest =>
    have h4 : c ≠ '*' := fun h => hstar (by simp [h])
    have h7 : c ≠ '{' := fun h => hbrace (by simp [h])
    by_cases h1 : c = '\\'
    · subst h1
      cases rest with
      | nil => rw [piecesOf.eq_2, piecesOf.eq_2]
      | cons d more => rw [piecesOf.eq_3, piecesOf.eq_3]
    by_cases h3 : c = '/'
    · subst h3
      rw [piecesOf.eq_4, piecesOf.eq_4]
    by_cases h5 : c = '?'
    · subst h5
      rw [piecesOf.eq_6, piecesOf.eq_6]
    by_cases h6 : c = '['
    · subst h6
      rw [piecesOf.eq_7, piecesOf.eq_7]
    rw [piecesOf.eq_9 _ _ c rest (fun h _ => h1 h) (fun _ _ h _ => h1 h) h3 h4 h5 h6 h7,
      piecesOf.eq_9 _ _ c rest (fun h _ => h1 h) (fun _ _ h _ => h1 h) h3 h4 h5 h6 h7]

/-! ## Brace expansion -/

section Expansion

variable {P R S : List Char}

/-- A pattern `P{...}` reads as `P`, read as if no segment started after it,
    then the group with the start flag `P` leaves. -/
theorem reading_with_group (hesc : endsEscaped P = false) (hopen : leavesOpen P = false)
    (hstar : ¬['*'] <:+ P) (e : Bool) :
    piecesOf (P ++ '{' :: R) true e =
      piecesOf P true false ++ piecesOf ('{' :: R) (endsSegment P true) e :=
  piecesOf_append_of_seam (Seam.of_plain_end hesc hopen hstar (by simp [isStarRun]))

/-- An expansion `P + A + S` reads as `P`, read as if no segment started after
    it, then `A` between the flag `P` leaves and the edge `S` shows, then `S`
    read as after a group. -/
theorem reading_expansion {A : List Char}
    (hP : endsEscaped P = false ∧ leavesOpen P = false ∧ ¬['*'] <:+ P ∧ ¬['}'] <:+ P)
    (hA : endsEscaped A = false ∧ leavesOpen A = false ∧ ¬['*', '*'] <:+ A)
    (hS : S.head? ≠ some '*' ∧ S.head? ≠ some '{') (e : Bool) :
    piecesOf (P ++ A ++ S) true e = piecesOf P true false ++
      (piecesOf A (endsSegment P true) (startsSegment S e) ++ piecesOf S false e) := by
  obtain ⟨hescP, hopenP, hstarP, hbraceP⟩ := hP
  obtain ⟨hescA, hopenA, hglobA⟩ := hA
  have hrun : isStarRun (A ++ S) = false := isStarRun_append_eq_false hglobA hS.1
  have hrunS : isStarRun S = false := isStarRun_append_eq_false (A := []) (by simp) hS.1
  have hseamA : Seam A S e := ⟨hescA, .inl hopenA, hglobA, .inr hS.1, by simp [hrunS]⟩
  rw [List.append_assoc,
    piecesOf_append_of_seam (Seam.of_plain_end hescP hopenP hstarP (by simp [hrun])),
    piecesOf_end_flag hstarP hbraceP true _ false, piecesOf_append_of_seam hseamA,
    piecesOf_start_flag hS.1 hS.2 _ false]

section Seams

variable {close : Nat} {alts : List (List Char)}
  (hbrace : matchBrace ('{' :: R) = some (close, alts)) (hS : ('{' :: R).drop (close + 1) = S)
  (hP : endsEscaped P = false ∧ leavesOpen P = false ∧ ¬['*'] <:+ P ∧ ¬['}'] <:+ P)
  (hA : ∀ A ∈ alts, endsEscaped A = false ∧ leavesOpen A = false ∧ ¬['*', '*'] <:+ A)
  (hShead : S.head? ≠ some '*' ∧ S.head? ≠ some '{')
include hbrace hS hP hA hShead

/-- With the braces at seams, a pattern's group matches what its expansions
    match. -/
theorem mem_seqLang_group_iff (u : List Char) :
    u ∈ Piece.seqLang (piecesOf (P ++ '{' :: R) true true) ↔
      ∃ A ∈ alts, u ∈ Piece.seqLang (piecesOf (P ++ A ++ S) true true) := by
  rw [reading_with_group hP.1 hP.2.1 hP.2.2.1, seqLang_append, Language.mem_mul]
  constructor
  · rintro ⟨v, hv, w, hw, rfl⟩
    obtain ⟨A, hA', hwA⟩ := (mem_seqLang_brace hbrace hS).1 hw
    refine ⟨A, hA', ?_⟩
    rw [reading_expansion hP (hA A hA') hShead, seqLang_append]
    exact Language.append_mem_mul hv hwA
  · rintro ⟨A, hA', hu⟩
    rw [reading_expansion hP (hA A hA') hShead, seqLang_append, Language.mem_mul] at hu
    obtain ⟨v, hv, w, hw, rfl⟩ := hu
    exact ⟨v, hv, w, (mem_seqLang_brace hbrace hS).2 ⟨A, hA', hw⟩, rfl⟩

/-- With the braces at seams, an expansion of a pattern whose classes all read
    has no class that does not read. -/
theorem firstBadClass_expansion
    (hbad : firstBadClass (piecesOf (P ++ '{' :: R) true true) = none) {A : List Char}
    (hA' : A ∈ alts) : firstBadClass (piecesOf (P ++ A ++ S) true true) = none := by
  rw [reading_with_group hP.1 hP.2.1 hP.2.2.1, firstBadClass_append,
    firstBadClass_brace hbrace hS] at hbad
  obtain ⟨hbadP, hbadA, hbadS⟩ := hbad
  rw [reading_expansion hP (hA A hA') hShead, firstBadClass_append, firstBadClass_append]
  exact ⟨hbadP, hbadA A hA', hbadS⟩

end Seams

/-- Brace expansion. A pattern `P{A1,...,An}S`, whose group the reader finds
    with the alternatives `alts` and the text `S` after it, accepts a path
    exactly when one of its expansions `P + Ak + S` accepts it, as long as
    the braces stand at seams: `P` does not end in a lone backslash, `*` or
    `}` and leaves nothing open, no alternative ends in a lone backslash or
    `**` or leaves anything open, and `S` starts with neither `*` nor `{`.
    The pattern compiles, and neither it nor an expansion starts with `!`. -/
theorem accepts_group_iff_expansion (P R S : List Char) (close : Nat)
    (alts : List (List Char)) (path : String)
    (hbrace : matchBrace ('{' :: R) = some (close, alts)) (hS : ('{' :: R).drop (close + 1) = S)
    (hneg : P.head? ≠ some '!') (hnegA : ∀ A ∈ alts, (P ++ A ++ S).head? ≠ some '!')
    (hP : endsEscaped P = false ∧ leavesOpen P = false ∧ ¬['*'] <:+ P ∧ ¬['}'] <:+ P)
    (hA : ∀ A ∈ alts, endsEscaped A = false ∧ leavesOpen A = false ∧ ¬['*', '*'] <:+ A)
    (hShead : S.head? ≠ some '*' ∧ S.head? ≠ some '{')
    (hok : (compile (String.ofList (P ++ '{' :: R))).isOk = true) :
    Accepts (String.ofList (P ++ '{' :: R)) path ↔
      ∃ A ∈ alts, Accepts (String.ofList (P ++ A ++ S)) path := by
  have hnegG : (String.ofList (P ++ '{' :: R)).toList.head? ≠ some '!' := by
    rw [String.toList_ofList]
    exact head_append_ne_bang hneg (by simp)
  have hnegX : ∀ A ∈ alts, (String.ofList (P ++ A ++ S)).toList.head? ≠ some '!' := by
    intro A hA'
    rw [String.toList_ofList]
    exact hnegA A hA'
  have hbad := (compile_isOk_iff hnegG).1 hok
  rw [String.toList_ofList] at hbad
  rw [accepts_iff hnegG, String.toList_ofList]
  constructor
  · rintro ⟨-, hmem⟩
    obtain ⟨A, hA', hmemA⟩ := (mem_seqLang_group_iff hbrace hS hP hA hShead _).1 hmem
    refine ⟨A, hA', (accepts_iff (hnegX A hA')).2 ⟨?_, ?_⟩⟩
    · rw [String.toList_ofList]
      exact firstBadClass_expansion hbrace hS hP hA hShead hbad hA'
    · rwa [String.toList_ofList]
  · rintro ⟨A, hA', hacc⟩
    obtain ⟨-, hmem⟩ := (accepts_iff (hnegX A hA')).1 hacc
    rw [String.toList_ofList] at hmem
    exact ⟨hbad, (mem_seqLang_group_iff hbrace hS hP hA hShead _).2 ⟨A, hA', hmem⟩⟩

/-- `*.{js,ts}` against its expansions `*.js` and `*.ts`. -/
theorem script_group_expands :
    Accepts (String.ofList (['*', '.'] ++ '{' :: ['j', 's', ',', 't', 's', '}'])) "a.ts" ↔
      ∃ A ∈ [['j', 's'], ['t', 's']], Accepts (String.ofList (['*', '.'] ++ A ++ [])) "a.ts" :=
  accepts_group_iff_expansion ['*', '.'] ['j', 's', ',', 't', 's', '}'] [] 6
    [['j', 's'], ['t', 's']] "a.ts" (by decide +kernel) rfl (by decide) (by decide)
    (by decide +kernel) (by decide +kernel) (by decide)
    (by rw [compile_isOk_iff (by decide +kernel)]; decide +kernel)

/-- A globstar at the edge of an alternative: `src/{**,x}` reads its `**` as a
    bare globstar after `src/`, so it rejects `src`, which the expansion
    `src/**` accepts. -/
theorem brace_globstar_at_edge : ¬ Accepts "src/\x7b**,x\x7d" "src" ∧ Accepts "src/**" "src" := by
  constructor
  · rw [accepts_iff (by decide)]
    rintro ⟨-, h⟩
    have hr : piecesOf "src/\x7b**,x\x7d".toList true true =
        [.lit 's', .lit 'r', .lit 'c', .lit '/', .group [[.anything], [.lit 'x']]] := by
      decide +kernel
    rw [hr] at h
    -- the group follows a `/` that `src` does not have
    simp [Language.mem_mul] at h
  · rw [accepts_iff (by decide)]
    have hr : piecesOf "src/**".toList true true = [.lit 's', .lit 'r', .lit 'c', .subtree] := by
      decide +kernel
    refine ⟨by decide +kernel, ?_⟩
    rw [hr]
    simp [Language.mem_mul, mem_subtree]

end Expansion

end ChangeFilter.Glob
