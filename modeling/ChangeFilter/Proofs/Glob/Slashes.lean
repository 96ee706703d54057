import ChangeFilter.Proofs.Glob.Brace

/-! # Glob patterns: slashes stay where the pattern writes them

    A `*`, a `?`, a run of stars inside a segment and a bracket class never
    consume a `/`; only a `/` of the pattern itself, bare or escaped, matches
    one. Globstars are the exception, and a run of stars is one only when it
    fills a whole segment. When every run of two or more stars is followed by
    a character other than `/`, `,` and `}`, no run reaches a `/`, the end of
    a brace alternative or the end of the pattern, so none is a globstar at
    any depth of braces; a path the pattern accepts then holds at most as
    many `/` as the pattern text.

    The count is carried through the reading of the pattern, one token at a
    time: a token consumes at most the slashes of its own text, and a brace
    group at most those of one alternative, which lies in the group's text
    between two of its marks, before the text after the group.

    Main statements:
    * `slashBound_piecesOf` — what a reading consumes holds no more slashes
      than the text read;
    * `accepted_path_slashes_le` — a glob whose star runs stand between
      characters other than `/`, `{`, `}` and `,` accepts only paths with at
      most as many `/` as it has. -/

namespace ChangeFilter.Glob

open Language

/-! ## Runs of stars that reach no segment edge -/

/-- Every pair `**` of a text is followed by a character other than `/`,
    `,` and `}`: no run of stars reaches a `/`, the end of the text or the
    end of a brace alternative. -/
def StarsFollowed (cs : List Char) : Prop :=
  ∀ pre post, cs = pre ++ '*' :: '*' :: post →
    ∃ y ys, post = y :: ys ∧ y ≠ '/' ∧ y ≠ ',' ∧ y ≠ '}'

theorem StarsFollowed.of_suffix {cs ds : List Char} (h : StarsFollowed cs) (hs : ds <:+ cs) :
    StarsFollowed ds := by
  obtain ⟨t, rfl⟩ := hs
  intro pre post hds
  exact h (t ++ pre) post (by rw [hds, List.append_assoc])

theorem StarsFollowed.tail {c : Char} {cs : List Char} (h : StarsFollowed (c :: cs)) :
    StarsFollowed cs :=
  h.of_suffix (List.suffix_cons c cs)

/-- A part of a text that a comma or a closing brace follows keeps the
    property: no run of stars can end the part. -/
theorem StarsFollowed.of_separated {P A Q : List Char} {c : Char}
    (h : StarsFollowed (P ++ A ++ c :: Q)) (hc : c = ',' ∨ c = '}') : StarsFollowed A := by
  intro pre post hA
  obtain ⟨y, ys, hpost, h1, h2, h3⟩ := h (P ++ pre) (post ++ c :: Q) (by simp [hA])
  cases post with
  | nil =>
    -- the run would end the part, right before the separator
    simp only [List.nil_append, List.cons.injEq] at hpost
    rcases hc with rfl | rfl
    · exact absurd hpost.1.symm h2
    · exact absurd hpost.1.symm h3
  | cons z zs =>
    simp only [List.cons_append, List.cons.injEq] at hpost
    obtain ⟨rfl, -⟩ := hpost
    exact ⟨z, zs, rfl, h1, h2, h3⟩

/-- No text of two or more stars and nothing else has the property: its
    last two stars are followed by nothing. -/
theorem StarsFollowed.isStarRun_eq_false {cs : List Char} (h : StarsFollowed cs) :
    isStarRun cs = false := by
  by_contra hrun
  simp only [isStarRun, Bool.not_eq_false, Bool.and_eq_true, decide_eq_true_eq,
    List.all_eq_true, beq_iff_eq] at hrun
  obtain ⟨hlen, hall⟩ := hrun
  obtain ⟨n, rfl⟩ : ∃ n, cs = List.replicate (n + 2) '*' :=
    ⟨cs.length - 2, List.eq_replicate_iff.2 ⟨by omega, hall⟩⟩
  obtain ⟨y, ys, hnil, -⟩ := h (List.replicate n '*') []
    (by rw [← List.replicate_append_replicate]; rfl)
  cases hnil

/-- A run of stars at the head of a text stops before a character other
    than `/`. -/
theorem StarsFollowed.dropStars_head {rest : List Char} (h : StarsFollowed ('*' :: '*' :: rest)) :
    ∃ y ys, dropStars rest = y :: ys ∧ y ≠ '/' := by
  induction rest with
  | nil =>
    obtain ⟨y, ys, hnil, -⟩ := h [] [] rfl
    cases hnil
  | cons c rest ih =>
    by_cases hc : c = '*'
    · -- the run goes on past this star
      subst hc
      have hd : dropStars ('*' :: rest) = dropStars rest := by simp [dropStars]
      rw [hd]
      exact ih h.tail
    · have hd : dropStars (c :: rest) = c :: rest := by simp [dropStars, hc]
      obtain ⟨y, ys, hpost, h1, -⟩ := h [] (c :: rest) rfl
      simp only [List.cons.injEq] at hpost
      obtain ⟨rfl, rfl⟩ := hpost
      exact ⟨c, rest, hd, h1⟩

/-- Under the property no run of stars is a globstar: what follows the run
    starts no segment. -/
theorem StarsFollowed.not_globstar {rest : List Char} {a e : Bool} (h : StarsFollowed ('*' :: rest)) :
    ¬(rest.length - (dropStars rest).length ≥ 1 ∧ a = true ∧
      startsSegment (dropStars rest) e = true) := by
  rintro ⟨hlen, -, hseg⟩
  -- a run of one star is never a globstar, so a second star follows
  obtain ⟨r, rfl⟩ : ∃ r, rest = '*' :: r := by
    cases rest with
    | nil => simp at hlen
    | cons c r =>
      by_cases hc : c = '*'
      · exact ⟨r, by rw [hc]⟩
      · simp [dropStars, hc] at hlen
  have hd : dropStars ('*' :: r) = dropStars r := by simp [dropStars]
  obtain ⟨y, ys, hy, hy'⟩ := h.dropStars_head
  rw [hd, hy] at hseg
  simp [startsSegment, hy'] at hseg

/-! ## The text of a brace alternative -/

/-- Position `x` of a text holds a comma or a closing brace. -/
def OnSeparator (T : List Char) (x : Nat) : Prop :=
  ∃ c post, T.drop x = c :: post ∧ (c = ',' ∨ c = '}')

theorem drop_succ_of_drop_eq {T rest : List Char} {i : Nat} {c : Char} (h : T.drop i = c :: rest) :
    T.drop (i + 1) = rest := by
  rw [← List.tail_drop, h, List.tail_cons]

/-- Marks before a position stay before every later position. -/
theorem marks_lt_add {marks : List Nat} {i : Nat} (hm : ∀ x ∈ marks, x < i) (k : Nat) :
    ∀ x ∈ marks, x < i + k :=
  fun x hx => Nat.lt_add_right k (hm x hx)

/-- Every mark the group scan records after its start lies on a comma or on
    the closing brace, and no mark lies past the closing brace. The scan
    reads `T` from position `i`. -/
theorem groupMarksFrom_marks {T cs : List Char} {i depth : Nat} {marks r : List Nat}
    (h : groupMarksFrom cs i depth marks = some r) (hT : T.drop i = cs) (hm : ∀ x ∈ marks, x < i) :
    ∀ x ∈ r, x ≤ r.getLastD 0 ∧ (x ∈ marks ∨ OnSeparator T x) := by
  induction cs, i, depth, marks using groupMarksFrom.induct with
  | case1 => simp [groupMarksFrom] at h
  | case2 => simp [groupMarksFrom] at h
  | case3 c rest i depth marks ih =>
    simp only [groupMarksFrom] at h
    exact ih h (drop_succ_of_drop_eq (drop_succ_of_drop_eq hT)) (marks_lt_add hm 2)
  | case4 rest i depth marks ih =>
    simp only [groupMarksFrom] at h
    exact ih h (drop_succ_of_drop_eq hT) (marks_lt_add hm 1)
  | case5 rest i marks =>
    -- the closing brace: its index is the last mark
    simp only [groupMarksFrom, if_true, Option.some.injEq] at h
    subst h
    have hlast : (i :: marks).reverse.getLastD 0 = i := by simp
    intro x hx
    rw [hlast]
    simp only [List.mem_reverse, List.mem_cons] at hx
    rcases hx with rfl | hx
    · exact ⟨le_rfl, .inr ⟨'}', rest, hT, .inr rfl⟩⟩
    · exact ⟨(hm x hx).le, .inl hx⟩
  | case6 rest i depth marks hd ih =>
    simp only [groupMarksFrom, hd, if_false] at h
    exact ih h (drop_succ_of_drop_eq hT) (marks_lt_add hm 1)
  | case7 rest i marks ih =>
    -- a comma at depth one: its index joins the marks
    simp only [groupMarksFrom, if_true] at h
    intro x hx
    obtain ⟨hle, hsep⟩ := ih h (drop_succ_of_drop_eq hT)
      (List.forall_mem_cons.2 ⟨Nat.lt_succ_self i, marks_lt_add hm 1⟩) x hx
    refine ⟨hle, ?_⟩
    rcases hsep with hsep | hsep
    · rcases List.mem_cons.1 hsep with rfl | hsep
      · exact .inr ⟨',', rest, hT, .inl rfl⟩
      · exact .inl hsep
    · exact .inr hsep
  | case8 rest i depth marks hd ih =>
    simp only [groupMarksFrom, hd, if_false] at h
    exact ih h (drop_succ_of_drop_eq hT) (marks_lt_add hm 1)
  | case9 c rest i depth marks h1 h2 h3 h4 h5 ih =>
    rw [groupMarksFrom_plain (ne_backslash_of_plain h1 h2) h3 h4 h5] at h
    exact ih h (drop_succ_of_drop_eq hT) (marks_lt_add hm 1)

/-- The marks of a group: the opening brace at `0`, and commas and the
    closing brace, none past the closing brace. -/
theorem marks_of_groupMarks {rest : List Char} {marks : List Nat}
    (h : groupMarks ('{' :: rest) = some marks) :
    ∀ x ∈ marks, x ≤ marks.getLastD 0 ∧ (x = 0 ∨ OnSeparator ('{' :: rest) x) := by
  have hfrom := (groupMarks_eq_some_iff.1 h).1
  rw [groupMarksFrom.eq_4] at hfrom
  intro x hx
  obtain ⟨hle, hsep⟩ := groupMarksFrom_marks (T := '{' :: rest) hfrom (by simp) (by simp) x hx
  exact ⟨hle, by simpa using hsep⟩

theorem between_eq_drop_take (T : List Char) (x y : Nat) :
    between T x y = (T.take y).drop (x + 1) := by
  rw [between, List.drop_take, Nat.sub_sub]

/-- An alternative that ends on a comma or the closing brace keeps the
    property of the group text. -/
theorem StarsFollowed.alternative {T : List Char} {x y : Nat} (h : StarsFollowed T)
    (hy : y = 0 ∨ OnSeparator T y) : StarsFollowed (between T x y) := by
  by_cases hxy : y ≤ x
  · -- an empty alternative
    have hnil : between T x y = [] := by
      rw [between, List.take_eq_nil_iff]
      omega
    rw [hnil]
    intro pre post hpre
    simp at hpre
  · rcases hy with rfl | ⟨c, post, hdrop, hc⟩
    · omega
    · have hsplit : T = T.take (x + 1) ++ between T x y ++ c :: post := by
        have hdrop' : T.drop y = (T.drop (x + 1)).drop (y - x - 1) := by
          rw [List.drop_drop]
          congr 1
          omega
        calc T = T.take (x + 1) ++ T.drop (x + 1) := (List.take_append_drop _ _).symm
          _ = T.take (x + 1) ++ (between T x y ++ T.drop y) := by
              rw [hdrop', between, List.take_append_drop (y - x - 1) (T.drop (x + 1))]
          _ = T.take (x + 1) ++ between T x y ++ c :: post := by
              rw [hdrop, List.append_assoc]
      rw [hsplit] at h
      exact h.of_separated hc

/-- An alternative ending no later than position `k` holds no more of a
    character than the text before `k`. -/
theorem count_between_le {T : List Char} {x y k : Nat} (hyk : y ≤ k) (c : Char) :
    (between T x y).count c ≤ (T.take k).count c := by
  rw [between_eq_drop_take]
  exact ((List.drop_sublist _ _).trans (List.take_sublist_take_left hyk)).count_le c

/-- The text before position `k` and the text after it, together, hold no
    more of a character than the whole text. -/
theorem count_take_add_count_drop_le (T : List Char) (k : Nat) (c : Char) :
    (T.take k).count c + (T.drop (k + 1)).count c ≤ T.count c := by
  have hdrop : (T.drop (k + 1)).count c ≤ (T.drop k).count c := by
    rw [← List.drop_drop]
    exact (List.drop_sublist _ _).count_le c
  calc (T.take k).count c + (T.drop (k + 1)).count c
      ≤ (T.take k).count c + (T.drop k).count c := Nat.add_le_add_left hdrop _
    _ = T.count c := by rw [← List.count_append, List.take_append_drop]

/-! ## Classes -/

/-- The text after the first `]` is what the `]` leaves of the text. -/
theorem untilClose_close_suffix : ∀ {cs body after : List Char},
    untilClose cs = some (body, after) → ']' :: after <:+ cs
  | [], _, _, h => by simp [untilClose] at h
  | c :: rest, body, after, h => by
    simp only [untilClose] at h
    split at h
    · next hc =>
      simp only [Option.some.injEq, Prod.mk.injEq] at h
      rw [← h.2, hc]
    · rcases hr : untilClose rest with _ | ⟨b, a⟩
      · simp [hr] at h
      · rw [hr] at h
        simp only [Option.map_some, Option.some.injEq, Prod.mk.injEq] at h
        rw [← h.2]
        exact (untilClose_close_suffix hr).trans (List.suffix_cons c rest)

theorem dropMark_suffix (cs : List Char) : (dropMark cs).2 <:+ cs := by
  unfold dropMark
  split
  · split
    · exact List.suffix_cons _ _
    · exact List.suffix_refl _
  · exact List.suffix_refl _

theorem dropLead_suffix (cs : List Char) : (dropLead cs).2 <:+ cs := by
  unfold dropLead
  split
  · exact List.suffix_cons _ _
  · exact List.suffix_refl _

/-- The text after a class is what its `]` leaves of the text. -/
theorem classSpan_close_suffix {cs body after : List Char} {neg : Bool}
    (h : classSpan cs = some (neg, body, after)) : ']' :: after <:+ cs := by
  unfold classSpan at h
  simp only [Option.map_eq_some_iff, Prod.mk.injEq] at h
  obtain ⟨⟨b, a⟩, hu, -, -, rfl⟩ := h
  exact ((untilClose_close_suffix hu).trans (dropLead_suffix _)).trans (dropMark_suffix cs)

theorem classSpan_suffix {cs body after : List Char} {neg : Bool}
    (h : classSpan cs = some (neg, body, after)) : after <:+ cs :=
  (List.suffix_cons _ _).trans (classSpan_close_suffix h)

/-- A bracket class never admits `/`. -/
theorem ne_slash_of_bracketAdmits {negated : Bool} {body : List Char} {c : Char}
    (h : bracketAdmits negated body c = true) : c ≠ '/' := by
  unfold bracketAdmits at h
  split at h
  · simp only [Bool.and_eq_true, bne_iff_ne, ne_eq] at h
    exact h.1
  · cases h

/-! ## Bounds on the slashes a language consumes -/

/-- Every text of a language holds at most `n` slashes. -/
def SlashBound (L : Language Char) (n : Nat) : Prop :=
  ∀ u ∈ L, u.count '/' ≤ n

theorem SlashBound.mono {L : Language Char} {m n : Nat} (h : SlashBound L m) (hmn : m ≤ n) :
    SlashBound L n :=
  fun u hu => (h u hu).trans hmn

theorem SlashBound.mul {L M : Language Char} {m n : Nat} (hL : SlashBound L m)
    (hM : SlashBound M n) : SlashBound (L * M) (m + n) := by
  intro w hw
  obtain ⟨u, hu, v, hv, rfl⟩ := mem_mul.1 hw
  rw [List.count_append]
  exact Nat.add_le_add (hL u hu) (hM v hv)

theorem slashBound_seqLang_nil : SlashBound (Piece.seqLang []) 0 := by
  intro u hu
  rw [seqLang_nil, mem_one] at hu
  simp [hu]

/-- A piece that consumes no `/` adds no slash. -/
theorem slashBound_of_noSlash {p : Piece} (h : ∀ u ∈ p.lang, '/' ∉ u) : SlashBound p.lang 0 :=
  fun u hu => by simp [List.count_eq_zero.2 (h u hu)]

theorem slashBound_segmentRun : SlashBound Piece.segmentRun.lang 0 :=
  slashBound_of_noSlash fun _ hu => mem_lang_segmentRun.1 hu

theorem slashBound_segmentChar : SlashBound Piece.segmentChar.lang 0 :=
  slashBound_of_noSlash fun _ hu => by
    obtain ⟨c, hc, rfl⟩ := mem_lang_segmentChar.1 hu
    simpa using Ne.symm hc

theorem slashBound_bracket (negated : Bool) (body : List Char) :
    SlashBound (Piece.bracket negated body).lang 0 :=
  slashBound_of_noSlash fun _ hu => by
    obtain ⟨c, hc, rfl⟩ := mem_lang_bracket.1 hu
    simpa using Ne.symm (ne_slash_of_bracketAdmits hc)

theorem count_cons_slash (c : Char) (l : List Char) :
    (c :: l).count '/' = [c].count '/' + l.count '/' := by
  rw [← List.count_append]
  rfl

/-- A literal followed by more pieces adds its own slash, if it is one. -/
theorem slashBound_lit_cons {c : Char} {ps : List Piece} {n : Nat}
    (h : SlashBound (Piece.seqLang ps) n) :
    SlashBound (Piece.seqLang (.lit c :: ps)) ([c].count '/' + n) := by
  rw [seqLang_cons]
  refine SlashBound.mul (fun u hu => ?_) h
  rw [lang_lit, mem_singleton_lang] at hu
  rw [hu]

theorem slashBound_cons_of_zero {p : Piece} {ps : List Piece} {n : Nat} (hp : SlashBound p.lang 0)
    (h : SlashBound (Piece.seqLang ps) n) : SlashBound (Piece.seqLang (p :: ps)) n := by
  rw [seqLang_cons, ← Nat.zero_add n]
  exact hp.mul h

/-! ## Reading a text -/

/-- What the reading of a text consumes holds no more slashes than the text,
    when no run of stars in it reaches a segment edge: every token consumes at
    most the slashes of its own text. The induction follows the reading, one
    token per step, and goes into each alternative of a brace group. -/
theorem slashBound_piecesOf (cs : List Char) (a e : Bool) (h : StarsFollowed cs) :
    SlashBound (Piece.seqLang (piecesOf cs a e)) (cs.count '/') := by
  induction cs, a, e using piecesOf.induct with
  | case1 a e =>
    rw [piecesOf.eq_1]
    exact slashBound_seqLang_nil
  | case2 a e =>
    rw [piecesOf.eq_2]
    exact (slashBound_lit_cons slashBound_seqLang_nil).mono (by simp)
  | case3 a e c rest hcond =>
    -- an escaped `/` before a final run of stars would start a globstar
    simp [h.tail.tail.isStarRun_eq_false] at hcond
  | case4 a e c rest hcond ih =>
    rw [piecesOf.eq_3, if_neg hcond]
    exact (slashBound_lit_cons (ih h.tail.tail)).mono
      (by rw [count_cons_slash '\\' (c :: rest), count_cons_slash c rest]; simp)
  | case5 a e rest hcond =>
    simp [h.tail.isStarRun_eq_false] at hcond
  | case6 a e rest hcond ih =>
    rw [piecesOf.eq_4, if_neg hcond]
    exact (slashBound_lit_cons (ih h.tail)).mono (count_cons_slash '/' rest).ge
  | case7 a e rest hcond _ => exact absurd hcond h.not_globstar
  | case8 a e rest hcond _ _ _ _ => exact absurd hcond h.not_globstar
  | case9 a e rest hcond ih =>
    rw [piecesOf_star_run hcond]
    have hsuf : dropStars rest <:+ rest := List.dropWhile_suffix _
    exact (slashBound_cons_of_zero slashBound_segmentRun (ih (h.tail.of_suffix hsuf))).mono
      (by simpa using hsuf.count_le '/')
  | case10 a e rest ih =>
    rw [piecesOf.eq_6]
    exact (slashBound_cons_of_zero slashBound_segmentChar (ih h.tail)).mono (by simp)
  | case11 a e rest neg body after hspan ih =>
    rw [piecesOf_bracket hspan]
    have hsuf : after <:+ rest := classSpan_suffix hspan
    exact (slashBound_cons_of_zero (slashBound_bracket neg body) (ih (h.tail.of_suffix hsuf))).mono
      (by simpa using hsuf.count_le '/')
  | case12 a e rest hspan ih =>
    rw [piecesOf_bracket_none hspan]
    exact (slashBound_lit_cons (ih h.tail)).mono (count_cons_slash '[' rest).ge
  | case13 a e rest close alts hbrace after ends ihAlt ihAfter =>
    -- one alternative, then the text after the group: two disjoint parts of
    -- the group text, on either side of the closing brace
    intro u hu
    obtain ⟨A, hA, hu⟩ := (mem_seqLang_brace hbrace rfl).1 hu
    rw [seqLang_append] at hu
    obtain ⟨v, hv, w, hw, rfl⟩ := mem_mul.1 hu
    obtain ⟨marks, hmarks, rfl, rfl⟩ := matchBrace_eq_some.1 hbrace
    obtain ⟨⟨x, y⟩, hxy, rfl⟩ := List.mem_map.1 hA
    obtain ⟨hyle, hysep⟩ := marks_of_groupMarks hmarks y (mem_of_mem_consecutive hxy).2
    have hv' := ihAlt ⟨_, hA⟩ (h.alternative hysep) v hv
    have hw' := ihAfter (h.of_suffix (List.drop_suffix _ _)) w hw
    calc (v ++ w).count '/' = v.count '/' + w.count '/' := List.count_append
      _ ≤ (between ('{' :: rest) x y).count '/' + after.count '/' := Nat.add_le_add hv' hw'
      _ ≤ (('{' :: rest).take (marks.getLastD 0)).count '/' + after.count '/' :=
          Nat.add_le_add_right (count_between_le hyle '/') _
      _ ≤ ('{' :: rest).count '/' := count_take_add_count_drop_le _ _ '/'
  | case14 a e rest hnone ih =>
    rw [piecesOf_brace_none (matchBrace_eq_none.1 hnone)]
    exact (slashBound_lit_cons (ih h.tail)).mono (count_cons_slash '{' rest).ge
  | case15 a e c rest h1 h2 h3 h4 h5 h6 h7 ih =>
    rw [piecesOf.eq_9 _ _ c rest h1 h2 h3 h4 h5 h6 h7]
    exact (slashBound_lit_cons (ih h.tail)).mono (count_cons_slash c rest).ge

/-! ## Patterns whose star runs are fenced in -/

/-- A neighbour that keeps a run of stars inside its segment: a character
    other than `/`, `{`, `}` and `,`. -/
def fences : Option Char → Bool
  | some x => x != '/' && x != '{' && x != '}' && x != ','
  | none => false

/-- Every run of two or more stars in a text stands between two characters
    that fence it in, so it is neither at the start nor at the end. -/
def RunsFenced (cs : List Char) : Prop :=
  ∀ pre run post, cs = pre ++ run ++ post → 2 ≤ run.length → (∀ c ∈ run, c = '*') →
    fences pre.getLast? = true ∧ fences post.head? = true

theorem RunsFenced.starsFollowed {cs : List Char} (h : RunsFenced cs) : StarsFollowed cs := by
  intro pre post hcs
  obtain ⟨-, hpost⟩ := h pre ['*', '*'] post (by simp [hcs]) (by simp) (by simp)
  cases post with
  | nil => simp [fences] at hpost
  | cons y ys =>
    simp only [fences, List.head?_cons, Bool.and_eq_true, bne_iff_ne, ne_eq] at hpost
    exact ⟨y, ys, rfl, hpost.1.1.1, hpost.2, hpost.1.2⟩

/-- Checks, left to right, that every pair `**` of a text has fencing
    neighbours; `prev` is the character before the text. -/
def pairsFencedFrom (prev : Option Char) : List Char → Bool
  | [] => true
  | c :: rest =>
    (c != '*' || rest.head? != some '*' || (fences prev && fences (rest.drop 1).head?)) &&
      pairsFencedFrom (some c) rest

theorem getLast?_cons_or (c : Char) (l : List Char) (o : Option Char) :
    (c :: l).getLast?.or o = l.getLast?.or (some c) := by
  rw [List.getLast?_cons]
  cases l.getLast? <;> rfl

/-- What the check passes: every pair `**` has a fencing character before
    it, in the text or as `prev`, and one after it. -/
theorem pairsFencedFrom_sound {prev : Option Char} {cs : List Char}
    (h : pairsFencedFrom prev cs = true) :
    ∀ pre post, cs = pre ++ '*' :: '*' :: post →
      fences (pre.getLast?.or prev) = true ∧ fences post.head? = true := by
  induction cs generalizing prev with
  | nil =>
    intro pre post hcs
    simp at hcs
  | cons c rest ih =>
    simp only [pairsFencedFrom, Bool.and_eq_true] at h
    obtain ⟨hhere, hrest⟩ := h
    intro pre post hcs
    cases pre with
    | nil =>
      -- the pair at the head of the text
      simp only [List.nil_append, List.cons.injEq] at hcs
      obtain ⟨rfl, rfl⟩ := hcs
      simpa using hhere
    | cons p pre =>
      simp only [List.cons_append, List.cons.injEq] at hcs
      obtain ⟨rfl, hcs⟩ := hcs
      rw [getLast?_cons_or]
      exact ih hrest pre post hcs

/-- A run of stars is fenced in as soon as its first pair has a fencing
    character before it and its last pair one after it. -/
theorem runsFenced_of_pairs {cs : List Char}
    (h : ∀ pre post, cs = pre ++ '*' :: '*' :: post →
      fences pre.getLast? = true ∧ fences post.head? = true) : RunsFenced cs := by
  intro pre run post hcs hlen hall
  obtain ⟨n, rfl⟩ : ∃ n, run = List.replicate (n + 2) '*' :=
    ⟨run.length - 2, List.eq_replicate_iff.2 ⟨by omega, hall⟩⟩
  refine ⟨(h pre (List.replicate n '*' ++ post) ?_).1, (h (pre ++ List.replicate n '*') post ?_).2⟩
  · rw [hcs]
    simp [List.replicate_succ]
  · rw [hcs, ← List.replicate_append_replicate]
    simp

theorem runsFenced_of_check {cs : List Char} (h : pairsFencedFrom none cs = true) :
    RunsFenced cs :=
  runsFenced_of_pairs fun pre post hcs => by
    simpa using pairsFencedFrom_sound h pre post hcs

/-- Slash confinement: a glob without a leading `!` whose runs of two or
    more stars all stand between characters other than `/`, `{`, `}` and
    `,` has no globstar, at any depth of braces, and accepts only paths with
    at most as many `/` as the glob text. So `*`, `?`, runs of stars inside
    a segment and every bracket class, negated or not, never match a `/`. -/
theorem accepted_path_slashes_le (p s : String) (hneg : p.toList.head? ≠ some '!')
    (hruns : RunsFenced p.toList) (hacc : Accepts p s) :
    s.toList.count '/' ≤ p.toList.count '/' := by
  obtain ⟨-, hmem⟩ := (accepts_iff hneg).1 hacc
  exact slashBound_piecesOf _ true true hruns.starsFollowed _ hmem

/-- `src/a**.py`: its run of stars lies inside a segment, and `src/abc.py`,
    which it accepts, has its one `/`. -/
theorem slashes_at_inner_double_star :
    RunsFenced "src/a**.py".toList ∧ Accepts "src/a**.py" "src/abc.py" ∧
      "src/abc.py".toList.count '/' ≤ "src/a**.py".toList.count '/' := by
  have hruns : RunsFenced "src/a**.py".toList := runsFenced_of_check (by decide +kernel)
  have hacc : Accepts "src/a**.py" "src/abc.py" := by
    rw [accepts_iff (by decide)]
    exact ⟨by decide +kernel, fullMatch_iff.1 (by decide +kernel)⟩
  exact ⟨hruns, hacc, accepted_path_slashes_le _ _ (by decide) hruns hacc⟩

end ChangeFilter.Glob
