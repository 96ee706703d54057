import ChangeFilter.Proofs.Glob.Language

/-! # Glob patterns: reading a body with more text after it

    The compiler reads a glob body left to right, a token at a time, and a
    token looks past its own text in only a few places: a run of `*` asks
    whether a `/` follows it, a `/` (or `\/`) asks whether a final `**`
    follows it, and a `[` or a `{` looks for the bracket or brace that closes
    it. So the reading of a body `B` survives when text is written after it,
    except where `B` leaves something open or ends in one of those tokens.

    `endsEscaped` and `leavesOpen` say what a body leaves open at its end:
    a lone final backslash, and a `[` or `{` that only a later bracket or
    brace could close.

    Main statements:
    * `piecesOf_append_slash` — reading `B` followed by a `/`-led text keeps
      the pieces of `B`, up to a final globstar that the `/` continues;
    * `accepts_iff` — a glob without a leading `!` accepts exactly the texts
      of its pieces' language, when its classes can be read. -/

namespace ChangeFilter.Glob

/-! ## Scanning a longer text -/

theorem dropStars_eq_nil_iff {cs : List Char} : dropStars cs = [] ↔ ∀ c ∈ cs, c = '*' := by
  simp [dropStars, List.dropWhile_eq_nil_iff]

theorem dropStars_append_of_ne_nil {xs ys : List Char} (h : dropStars xs ≠ []) :
    dropStars (xs ++ ys) = dropStars xs ++ ys := by
  simp only [dropStars, List.dropWhile_append] at *
  simp [h]

theorem dropStars_append_of_eq_nil {xs ys : List Char} (h : dropStars xs = []) :
    dropStars (xs ++ ys) = dropStars ys := by
  simp only [dropStars, List.dropWhile_append] at *
  simp [h]

theorem isStarRun_append_slash (xs T : List Char) : isStarRun (xs ++ '/' :: T) = false := by
  simp [isStarRun]

theorem untilClose_eq_none_iff {cs : List Char} : untilClose cs = none ↔ ']' ∉ cs := by
  induction cs with
  | nil => simp [untilClose]
  | cons c rest ih =>
    by_cases hc : c = ']'
    · simp [untilClose, hc]
    · simp [untilClose, hc, ih, Ne.symm hc]

theorem untilClose_append {cs ys body after : List Char} (h : untilClose cs = some (body, after)) :
    untilClose (cs ++ ys) = some (body, after ++ ys) := by
  induction cs generalizing body after with
  | nil => simp [untilClose] at h
  | cons c rest ih =>
    by_cases hc : c = ']'
    · simp_all [untilClose]
    · rcases hr : untilClose rest with _ | ⟨b, a⟩
      · simp [untilClose, hc, hr] at h
      · simp only [untilClose, hc, if_false, hr, Option.map_some, Option.some.injEq,
          Prod.mk.injEq] at h
        obtain ⟨rfl, rfl⟩ := h
        simp [untilClose, hc, ih hr]

theorem dropLead_of_not_mem {cs : List Char} (h : ']' ∉ cs) : dropLead cs = ([], cs) := by
  match cs, h with
  | [], _ => rfl
  | c :: rest, h =>
    have hc : c ≠ ']' := fun hc => h (hc ▸ List.mem_cons_self)
    simp [dropLead, hc]

theorem classSpan_eq_none_of_not_mem {cs : List Char} (h : ']' ∉ cs) : classSpan cs = none := by
  -- the mark is dropped from the front, so what is left is a suffix, and it
  -- holds no `]` either
  have hmark : (dropMark cs).2 <:+ cs := by
    unfold dropMark
    split
    · split
      · exact List.suffix_cons _ _
      · exact List.suffix_refl _
    · exact List.suffix_refl _
  have hnot : ']' ∉ (dropMark cs).2 := fun hm => h (hmark.subset hm)
  simp [classSpan, dropLead_of_not_mem hnot, untilClose_eq_none_iff.2 hnot]

theorem dropMark_append {xs ys : List Char} (h : xs ≠ []) :
    dropMark (xs ++ ys) = ((dropMark xs).1, (dropMark xs).2 ++ ys) := by
  cases xs with
  | nil => exact absurd rfl h
  | cons c rest => by_cases hc : c = '!' ∨ c = '^' <;> simp [dropMark, hc]

theorem dropLead_append {xs ys : List Char} (h : xs ≠ []) :
    dropLead (xs ++ ys) = ((dropLead xs).1, (dropLead xs).2 ++ ys) := by
  match xs, h with
  | ']' :: rest, _ => simp [dropLead]
  | c :: rest, _ =>
    by_cases hc : c = ']'
    · subst hc; simp [dropLead]
    · simp [dropLead, hc]

theorem classSpan_append {xs ys body after : List Char} {neg : Bool}
    (h : classSpan xs = some (neg, body, after)) :
    classSpan (xs ++ ys) = some (neg, body, after ++ ys) := by
  unfold classSpan at h ⊢
  simp only [Option.map_eq_some_iff, Prod.mk.injEq, Prod.exists] at h
  obtain ⟨b, a, hu, hneg, hbody, rfl⟩ := h
  -- a class that closes has text after its mark and after its leading `]`
  have hxs : xs ≠ [] := by rintro rfl; simp [dropMark, dropLead, untilClose] at hu
  have hr1 : (dropMark xs).2 ≠ [] := by
    intro h0; rw [h0] at hu; simp [dropLead, untilClose] at hu
  rw [dropMark_append hxs]
  simp only [dropLead_append hr1, untilClose_append hu, Option.map_some, hneg, hbody]

theorem classSpan_append_none {xs ys : List Char} (h : classSpan xs = none) (hy : ']' ∉ ys) :
    classSpan (xs ++ ys) = none := by
  cases xs with
  | nil => exact classSpan_eq_none_of_not_mem hy
  | cons c rest =>
    unfold classSpan at h ⊢
    rw [dropMark_append (List.cons_ne_nil c rest)]
    simp only [Option.map_eq_none_iff] at h ⊢
    by_cases hr1 : (dropMark (c :: rest)).2 = []
    · -- only the mark stood before the appended text
      rw [hr1, List.nil_append]
      simpa [dropLead_of_not_mem hy] using untilClose_eq_none_iff.2 hy
    · rw [dropLead_append hr1]
      have hb := untilClose_eq_none_iff.1 h
      exact untilClose_eq_none_iff.2 (by simp [hb, hy])

/-- A character that neither escapes, opens, closes nor separates is skipped. -/
theorem groupMarksFrom_plain {c : Char} {rest : List Char} {i depth : Nat} {marks : List Nat}
    (h1 : c ≠ '\\') (h2 : c ≠ '{') (h3 : c ≠ '}') (h4 : c ≠ ',') :
    groupMarksFrom (c :: rest) i depth marks = groupMarksFrom rest (i + 1) depth marks :=
  groupMarksFrom.eq_7 _ _ _ _ _ (fun h _ => h1 h) (fun _ _ h _ => h1 h) h2 h3 h4

/-- The default case of the scan holds no backslash. -/
theorem ne_backslash_of_plain {c : Char} {rest : List Char}
    (h1 : c = '\\' → rest = [] → False)
    (h2 : ∀ (d : Char) (more : List Char), c = '\\' → rest = d :: more → False) : c ≠ '\\' := by
  intro hc
  cases rest with
  | nil => exact h1 hc rfl
  | cons d more => exact h2 d more hc rfl

theorem groupMarksFrom_append {xs ys : List Char} {i depth : Nat} {marks r : List Nat}
    (h : groupMarksFrom xs i depth marks = some r) :
    groupMarksFrom (xs ++ ys) i depth marks = some r := by
  induction xs, i, depth, marks using groupMarksFrom.induct with
  | case1 => simp [groupMarksFrom] at h
  | case2 => simp [groupMarksFrom] at h
  | case5 rest i marks => simpa [groupMarksFrom] using h
  | case9 c rest i depth marks h1 h2 h3 h4 h5 ih =>
    have h0 := ne_backslash_of_plain h1 h2
    rw [groupMarksFrom_plain h0 h3 h4 h5] at h
    rw [List.cons_append, groupMarksFrom_plain h0 h3 h4 h5]
    exact ih h
  | _ => simp_all [groupMarksFrom]

theorem groupMarksFrom_eq_none_of_not_mem {cs : List Char} {i depth : Nat} {marks : List Nat}
    (h : '}' ∉ cs) : groupMarksFrom cs i depth marks = none := by
  induction cs, i, depth, marks using groupMarksFrom.induct with
  | case5 rest i marks => simp at h
  | case6 rest i depth marks hd ih => simp at h
  | case9 c rest i depth marks h1 h2 h3 h4 h5 ih =>
    rw [groupMarksFrom_plain (ne_backslash_of_plain h1 h2) h3 h4 h5]
    exact ih (fun hm => h (List.mem_cons_of_mem _ hm))
  | _ => simp_all [groupMarksFrom]

theorem groupMarksFrom_append_none {xs ys : List Char} {i depth : Nat} {marks : List Nat}
    (h : groupMarksFrom xs i depth marks = none) (hy : '}' ∉ ys) :
    groupMarksFrom (xs ++ ys) i depth marks = none := by
  induction xs, i, depth, marks using groupMarksFrom.induct with
  | case1 => exact groupMarksFrom_eq_none_of_not_mem hy
  | case2 i depth marks =>
    -- a final backslash now hides the first appended character
    cases ys with
    | nil => rfl
    | cons c rest =>
      simp only [List.cons_append, List.nil_append, groupMarksFrom]
      exact groupMarksFrom_eq_none_of_not_mem (fun hm => hy (List.mem_cons_of_mem _ hm))
  | case5 rest i marks => simp [groupMarksFrom] at h
  | case9 c rest i depth marks h1 h2 h3 h4 h5 ih =>
    have h0 := ne_backslash_of_plain h1 h2
    rw [groupMarksFrom_plain h0 h3 h4 h5] at h
    rw [List.cons_append, groupMarksFrom_plain h0 h3 h4 h5]
    exact ih h
  | _ => simp_all [groupMarksFrom]

/-- A step of the scan that moves `k` characters on without a new mark keeps
    every mark below the end of the text. -/
theorem marks_lt_of_step {marks r : List Nat} {i k n m : Nat} (hm : ∀ x ∈ marks, x < i)
    (ih : (∀ x ∈ marks, x < i + k) → ∀ x ∈ r, x < i + k + n) (hlen : n + k = m) :
    ∀ x ∈ r, x < i + m := by
  intro x hx
  have hx' := ih (fun y hy => by have := hm y hy; omega) x hx
  omega

/-- Every mark of a group lies inside the scanned text. -/
theorem lt_of_mem_groupMarksFrom {cs : List Char} {i depth : Nat} {marks r : List Nat}
    (h : groupMarksFrom cs i depth marks = some r) (hm : ∀ x ∈ marks, x < i) :
    ∀ x ∈ r, x < i + cs.length := by
  induction cs, i, depth, marks using groupMarksFrom.induct with
  | case1 => simp [groupMarksFrom] at h
  | case2 => simp [groupMarksFrom] at h
  | case5 rest i marks =>
    -- the closing brace: its own index joins the marks
    simp only [groupMarksFrom, if_true, Option.some.injEq] at h
    subst h
    intro x hx
    simp only [List.mem_reverse, List.mem_cons] at hx
    rcases hx with rfl | hx
    · simp
    · have := hm x hx
      simp only [List.length_cons]
      omega
  | case7 rest i marks ih =>
    -- a comma at depth one: its index joins the marks
    simp only [groupMarksFrom, if_true] at h
    intro x hx
    have := ih h (fun y hy => by
      simp only [List.mem_cons] at hy
      rcases hy with rfl | hy
      · omega
      · have := hm y hy; omega) x hx
    simp only [List.length_cons]
    omega
  | case9 c rest i depth marks h1 h2 h3 h4 h5 ih =>
    rw [groupMarksFrom_plain (ne_backslash_of_plain h1 h2) h3 h4 h5] at h
    exact marks_lt_of_step hm (ih h) (by simp)
  | case3 c rest i depth marks ih =>
    simp only [groupMarksFrom] at h
    exact marks_lt_of_step hm (ih h) (by simp)
  | case4 rest i depth marks ih =>
    simp only [groupMarksFrom] at h
    exact marks_lt_of_step hm (ih h) (by simp)
  | case6 rest i depth marks hd ih =>
    simp only [groupMarksFrom, hd, if_false] at h
    exact marks_lt_of_step hm (ih h) (by simp)
  | case8 rest i depth marks hd ih =>
    simp only [groupMarksFrom, hd, if_false] at h
    exact marks_lt_of_step hm (ih h) (by simp)

theorem groupMarks_append {xs ys : List Char} {marks : List Nat} (h : groupMarks xs = some marks) :
    groupMarks (xs ++ ys) = some marks := by
  unfold groupMarks at h ⊢
  rcases hg : groupMarksFrom xs 0 0 [0] with _ | r
  · simp [hg] at h
  · rw [groupMarksFrom_append hg]
    simpa [hg] using h

theorem groupMarks_append_none {xs ys : List Char} (h : groupMarks xs = none) (hy : '}' ∉ ys) :
    groupMarks (xs ++ ys) = none := by
  unfold groupMarks at h ⊢
  rcases hg : groupMarksFrom xs 0 0 [0] with _ | r
  · rw [groupMarksFrom_append_none hg hy]
  · rw [groupMarksFrom_append hg]
    simpa [hg] using h

/-- The marks of a group opened at the head of a text lie inside the text. -/
theorem lt_of_mem_groupMarks {rest : List Char} {marks : List Nat}
    (h : groupMarks ('{' :: rest) = some marks) : ∀ x ∈ marks, x < rest.length + 1 := by
  unfold groupMarks at h
  rcases hg : groupMarksFrom ('{' :: rest) 0 0 [0] with _ | r
  · simp [hg] at h
  · have hr : r = marks := by
      simp only [hg] at h
      split at h
      · simp at h
      · exact Option.some.inj h
    subst hr
    rw [groupMarksFrom.eq_4] at hg
    intro x hx
    have := lt_of_mem_groupMarksFrom hg (by simp) x hx
    omega

theorem groupMarks_eq_some_iff {cs : List Char} {marks : List Nat} :
    groupMarks cs = some marks ↔ groupMarksFrom cs 0 0 [0] = some marks ∧ 2 < marks.length := by
  unfold groupMarks
  rcases groupMarksFrom cs 0 0 [0] with _ | r
  · simp
  · by_cases hr : r.length ≤ 2
    · simp only [hr, if_true, reduceCtorEq, false_iff, not_and, Option.some.injEq]
      rintro rfl
      omega
    · simp only [hr, if_false, Option.some.injEq]
      constructor
      · rintro rfl
        exact ⟨rfl, by omega⟩
      · exact fun h => h.1

/-- The closing brace of a group is its last mark, inside the text. -/
theorem close_lt_of_groupMarks {rest : List Char} {marks : List Nat}
    (h : groupMarks ('{' :: rest) = some marks) : marks.getLastD 0 < rest.length + 1 := by
  have hne : marks ≠ [] := by
    rintro rfl
    simp [groupMarks_eq_some_iff] at h
  apply lt_of_mem_groupMarks h
  rw [List.getLastD_eq_getLast?, List.getLast?_eq_some_getLast hne]
  exact List.getLast_mem hne

theorem between_append {xs ys : List Char} {a b : Nat} (h : b ≤ xs.length) :
    between (xs ++ ys) a b = between xs a b := by
  unfold between
  rw [List.drop_append, List.take_append]
  have : b - a - 1 - (List.drop (a + 1) xs).length = 0 := by
    simp only [List.length_drop]
    omega
  rw [this, List.take_zero, List.append_nil]

theorem mem_of_mem_consecutive {marks : List Nat} {a b : Nat} (h : (a, b) ∈ consecutive marks) :
    a ∈ marks ∧ b ∈ marks := by
  induction marks with
  | nil => simp [consecutive] at h
  | cons x rest ih =>
    match rest, h, ih with
    | [], h, _ => simp [consecutive] at h
    | y :: more, h, ih =>
      simp only [consecutive, List.mem_cons, Prod.mk.injEq] at h
      rcases h with ⟨rfl, rfl⟩ | h
      · simp
      · have := ih h
        simp only [List.mem_cons] at this ⊢
        exact ⟨.inr this.1, .inr this.2⟩

/-- A text that does not start with `*` is left whole by `dropStars`, so the
    run before it ends where it did. -/
theorem dropStars_append_of_head {rest T : List Char}
    (h : dropStars rest ≠ [] ∨ T.head? ≠ some '*') :
    dropStars (rest ++ T) = dropStars rest ++ T := by
  by_cases hd : dropStars rest = []
  · rw [dropStars_append_of_eq_nil hd, hd, List.nil_append]
    cases T with
    | nil => rfl
    | cons t T =>
      have ht : t ≠ '*' := fun ht => h.resolve_left (not_not.2 hd) (by simp [ht])
      simp [dropStars, ht]
  · exact dropStars_append_of_ne_nil hd

theorem dropStars_append_slash (rest T : List Char) :
    dropStars (rest ++ '/' :: T) = dropStars rest ++ '/' :: T :=
  dropStars_append_of_head (.inr (by simp))

theorem startsSegment_append (xs ys : List Char) (e : Bool) :
    startsSegment (xs ++ ys) e = startsSegment xs (startsSegment ys e) := by
  cases xs <;> rfl

theorem startsSegment_append_slash (cs T : List Char) (e : Bool) :
    startsSegment (cs ++ '/' :: T) e = startsSegment cs true :=
  startsSegment_append cs _ e

/-! ## What a body leaves open at its end -/

/-- Whether a glob body ends in a backslash that escapes nothing, reading the
    body as the compiler does: `\x` is one token, a closed class or group is
    one token, and a `[` or `{` that opens nothing is a plain character. -/
def endsEscaped : List Char → Bool
  | [] => false
  | ['\\'] => true
  | '\\' :: _ :: rest => endsEscaped rest
  | '[' :: rest =>
    match _h : classSpan rest with
    | some (_, _, after) => endsEscaped after
    | none => endsEscaped rest
  | '{' :: rest =>
    match groupMarks ('{' :: rest) with
    | some marks => endsEscaped (('{' :: rest).drop (marks.getLastD 0 + 1))
    | none => endsEscaped rest
  | _ :: rest => endsEscaped rest
termination_by cs => cs.length
decreasing_by
  all_goals first
    | (simp only [List.length_cons]; omega)
    | (have h1 := classSpan_length _h; simp only [List.length_cons] at *; omega)
    | (simp only [List.length_drop, List.length_cons]; omega)

/-- Whether reading a glob body leaves a bracket class or a brace group open:
    a `[` with no `]` after it, or a `{` whose group never closes. Such a
    character is read as itself, and text written after the body could still
    close it. -/
def leavesOpen : List Char → Bool
  | [] => false
  | '\\' :: _ :: rest => leavesOpen rest
  | '[' :: rest =>
    match _h : classSpan rest with
    | some (_, _, after) => leavesOpen after
    | none => true
  | '{' :: rest =>
    match groupMarksFrom ('{' :: rest) 0 0 [0] with
    | some marks =>
      if marks.length ≤ 2 then leavesOpen rest
      else leavesOpen (('{' :: rest).drop (marks.getLastD 0 + 1))
    | none => true
  | _ :: rest => leavesOpen rest
termination_by cs => cs.length
decreasing_by
  all_goals first
    | (simp only [List.length_cons]; omega)
    | (have h1 := classSpan_length _h; simp only [List.length_cons] at *; omega)
    | (simp only [List.length_drop, List.length_cons]; omega)

theorem endsEscaped_plain {c : Char} {rest : List Char}
    (h1 : c ≠ '\\') (h2 : c ≠ '[') (h3 : c ≠ '{') : endsEscaped (c :: rest) = endsEscaped rest := by
  rw [endsEscaped.eq_6]
  · exact fun h _ => h1 h
  · exact fun _ _ h _ => h1 h
  · exact h2
  · exact h3

theorem leavesOpen_plain {c : Char} {rest : List Char}
    (h1 : c ≠ '\\') (h2 : c ≠ '[') (h3 : c ≠ '{') : leavesOpen (c :: rest) = leavesOpen rest := by
  rw [leavesOpen.eq_5]
  · exact fun _ _ h _ => h1 h
  · exact h2
  · exact h3

theorem endsEscaped_dropStars (cs : List Char) : endsEscaped (dropStars cs) = endsEscaped cs := by
  induction cs with
  | nil => simp [dropStars]
  | cons c rest ih =>
    by_cases hc : c = '*'
    · subst hc
      rw [endsEscaped_plain (by decide) (by decide) (by decide), ← ih]
      simp [dropStars]
    · simp [dropStars, hc]

theorem leavesOpen_dropStars (cs : List Char) : leavesOpen (dropStars cs) = leavesOpen cs := by
  induction cs with
  | nil => simp [dropStars]
  | cons c rest ih =>
    by_cases hc : c = '*'
    · subst hc
      rw [leavesOpen_plain (by decide) (by decide) (by decide), ← ih]
      simp [dropStars]
    · simp [dropStars, hc]

/-- The side conditions on a body pass from a plain first character to the
    rest of the body. -/
theorem sideConds_plain {c : Char} {rest T : List Char} (h1 : c ≠ '\\') (h2 : c ≠ '[') (h3 : c ≠ '{')
    (hesc : endsEscaped (c :: rest) = false)
    (hopen : leavesOpen (c :: rest) = false ∨ (']' ∉ T ∧ '}' ∉ T)) :
    endsEscaped rest = false ∧ (leavesOpen rest = false ∨ (']' ∉ T ∧ '}' ∉ T)) := by
  rw [endsEscaped_plain h1 h2 h3] at hesc
  rw [leavesOpen_plain h1 h2 h3] at hopen
  exact ⟨hesc, hopen⟩

/-- The side conditions pass from a leading `*` to what follows its run. -/
theorem sideConds_star {rest T : List Char} (hesc : endsEscaped ('*' :: rest) = false)
    (hopen : leavesOpen ('*' :: rest) = false ∨ (']' ∉ T ∧ '}' ∉ T)) :
    endsEscaped (dropStars rest) = false ∧
      (leavesOpen (dropStars rest) = false ∨ (']' ∉ T ∧ '}' ∉ T)) := by
  rw [endsEscaped_dropStars, leavesOpen_dropStars]
  exact sideConds_plain (by decide) (by decide) (by decide) hesc hopen

/-! ## Reading a body followed by a `/` -/

/-- A `/` does not look at what stands before it. -/
theorem piecesOf_slash_flag (T : List Char) (a e : Bool) :
    piecesOf ('/' :: T) a e = piecesOf ('/' :: T) true e := by
  rw [piecesOf.eq_4, piecesOf.eq_4]

/-- A run of at least two `*` at the start of a segment, followed by `/`, is
    read as `**/`. -/
theorem piecesOf_starRun_slash {stars : List Char} (h : isStarRun stars = true) (T : List Char)
    (e : Bool) : piecesOf (stars ++ '/' :: T) true e = .dirs :: piecesOf T true e := by
  simp only [isStarRun, Bool.and_eq_true, decide_eq_true_eq, List.all_eq_true,
    beq_iff_eq] at h
  obtain ⟨hlen, hall⟩ := h
  obtain ⟨rest, rfl⟩ : ∃ rest, stars = '*' :: rest := by
    cases stars with
    | nil => simp at hlen
    | cons c rest => exact ⟨rest, by rw [hall c List.mem_cons_self]⟩
  have hrest : dropStars rest = [] :=
    dropStars_eq_nil_iff.2 fun c hc => hall c (List.mem_cons_of_mem _ hc)
  have hdrop : dropStars (rest ++ '/' :: T) = '/' :: T := by
    rw [dropStars_append_slash, hrest, List.nil_append]
  rw [List.cons_append, piecesOf.eq_5, hdrop]
  have hne : rest ≠ [] := by
    rintro rfl
    simp at hlen
  simp [hne, startsSegment]

/-- How the reading of a body `B` meets a text `'/' :: T` written after it:
    either the reading of `B` is kept and the text is read on its own, or `B`
    ended in a globstar that the `/` continues, a final `**` turning into
    `**/` and a trailing `/**` into `/` followed by `**/`. -/
def SlashJoin (ps qs : List Piece) (T : List Char) (e : Bool) : Prop :=
  qs = ps ++ piecesOf ('/' :: T) true e ∨
    (∃ pre, ps = pre ++ [.anything] ∧ qs = pre ++ .dirs :: piecesOf T true e) ∨
    (∃ pre, ps = pre ++ [.subtree] ∧ qs = pre ++ .lit '/' :: .dirs :: piecesOf T true e)

theorem SlashJoin.cons {ps qs : List Piece} {T : List Char} {e : Bool}
    (h : SlashJoin ps qs T e) (p : Piece) : SlashJoin (p :: ps) (p :: qs) T e := by
  rcases h with rfl | ⟨pre, rfl, rfl⟩ | ⟨pre, rfl, rfl⟩
  · exact .inl rfl
  · exact .inr (.inl ⟨p :: pre, rfl, rfl⟩)
  · exact .inr (.inr ⟨p :: pre, rfl, rfl⟩)

/-! ### Reading one token -/

theorem piecesOf_star_anything {rest : List Char} {a e : Bool}
    (hc : rest.length - (dropStars rest).length ≥ 1 ∧ a = true ∧ startsSegment (dropStars rest) e = true)
    (hd : dropStars rest = []) : piecesOf ('*' :: rest) a e = [.anything] := by
  rw [piecesOf.eq_5, if_pos hc]
  split
  · rfl
  · next h => simp [hd] at h

theorem piecesOf_star_dirs {rest after : List Char} {head : Char} {a e : Bool}
    (hc : rest.length - (dropStars rest).length ≥ 1 ∧ a = true ∧ startsSegment (dropStars rest) e = true)
    (hd : dropStars rest = head :: after) :
    piecesOf ('*' :: rest) a e = .dirs :: piecesOf after true e := by
  rw [piecesOf.eq_5, if_pos hc]
  split
  · next h => simp [hd] at h
  · next h => rw [hd] at h; cases h; rfl

theorem piecesOf_star_run {rest : List Char} {a e : Bool}
    (hc : ¬(rest.length - (dropStars rest).length ≥ 1 ∧ a = true ∧
      startsSegment (dropStars rest) e = true)) :
    piecesOf ('*' :: rest) a e = .segmentRun :: piecesOf (dropStars rest) false e := by
  rw [piecesOf.eq_5, if_neg hc]

theorem piecesOf_bracket {rest body after : List Char} {neg : Bool}
    (h : classSpan rest = some (neg, body, after)) (a e : Bool) :
    piecesOf ('[' :: rest) a e = .bracket neg body :: piecesOf after false e := by
  rw [piecesOf.eq_7]
  split <;> simp_all

theorem piecesOf_bracket_none {rest : List Char} (h : classSpan rest = none) (a e : Bool) :
    piecesOf ('[' :: rest) a e = .lit '[' :: piecesOf rest false e := by
  rw [piecesOf.eq_7]
  split <;> simp_all

theorem matchBrace_eq_some {cs : List Char} {e : Nat} {alts : List (List Char)} :
    matchBrace cs = some (e, alts) ↔ ∃ marks, groupMarks cs = some marks ∧
      marks.getLastD 0 = e ∧ alts = (consecutive marks).map fun p => between cs p.1 p.2 := by
  simp only [matchBrace, Option.map_eq_some_iff, Prod.mk.injEq]
  constructor
  · rintro ⟨marks, hm, he, halts⟩
    exact ⟨marks, hm, he, halts.symm⟩
  · rintro ⟨marks, hm, he, halts⟩
    exact ⟨marks, hm, he, halts.symm⟩

theorem matchBrace_eq_none {cs : List Char} : matchBrace cs = none ↔ groupMarks cs = none := by
  simp [matchBrace]

/-- A group is read as its alternatives, each between the segment edges seen
    around the braces and equal ones kept once, then the text after it. -/
theorem piecesOf_matchBrace {rest : List Char} {close : Nat} {alts : List (List Char)}
    (h : matchBrace ('{' :: rest) = some (close, alts)) (a e : Bool) :
    piecesOf ('{' :: rest) a e =
      .group (keepFirst (alts.map fun A =>
        piecesOf A a (startsSegment (('{' :: rest).drop (close + 1)) e))) ::
      piecesOf (('{' :: rest).drop (close + 1)) false e := by
  rw [piecesOf.eq_8]
  split
  · next close' alts' hbrace =>
    rw [h, Option.some.injEq, Prod.mk.injEq] at hbrace
    obtain ⟨rfl, rfl⟩ := hbrace
    -- the alternatives are read through their membership proofs
    have hmap : (alts.attach.map fun A =>
          piecesOf A.1 a (startsSegment (('{' :: rest).drop (close + 1)) e)) =
        alts.map fun A => piecesOf A a (startsSegment (('{' :: rest).drop (close + 1)) e) :=
      @List.attach_map_val _ _ alts fun A =>
        piecesOf A a (startsSegment (('{' :: rest).drop (close + 1)) e)
    simp only [hmap]
  · next hnone =>
    rw [h] at hnone
    cases hnone

theorem piecesOf_brace_none {rest : List Char} (h : groupMarks ('{' :: rest) = none) (a e : Bool) :
    piecesOf ('{' :: rest) a e = .lit '{' :: piecesOf rest false e := by
  rw [piecesOf.eq_8]
  split
  · next close alts hbrace =>
    rw [matchBrace_eq_none.2 h] at hbrace
    cases hbrace
  · rfl

/-- A group that closes inside a text closes at the same brace, with the same
    alternatives, when more text follows. -/
theorem matchBrace_append {rest : List Char} {close : Nat} {alts : List (List Char)}
    (h : matchBrace ('{' :: rest) = some (close, alts)) (T : List Char) :
    matchBrace ('{' :: (rest ++ T)) = some (close, alts) := by
  obtain ⟨marks, hmarks, rfl, rfl⟩ := matchBrace_eq_some.1 h
  have hext : groupMarks ('{' :: (rest ++ T)) = some marks := by
    rw [← List.cons_append]
    exact groupMarks_append hmarks
  refine matchBrace_eq_some.2 ⟨marks, hext, rfl, List.map_congr_left fun x hx => ?_⟩
  have hb := lt_of_mem_groupMarks hmarks x.2 (mem_of_mem_consecutive hx).2
  rw [← List.cons_append, between_append (by simp only [List.length_cons]; omega)]

theorem drop_append_of_matchBrace {rest : List Char} {close : Nat} {alts : List (List Char)}
    (h : matchBrace ('{' :: rest) = some (close, alts)) (T : List Char) :
    ('{' :: (rest ++ T)).drop (close + 1) = ('{' :: rest).drop (close + 1) ++ T := by
  obtain ⟨marks, hmarks, rfl, -⟩ := matchBrace_eq_some.1 h
  have hclose := close_lt_of_groupMarks hmarks
  rw [← List.cons_append, List.drop_append_of_le_length (by simp only [List.length_cons]; omega)]

/-- The side conditions pass from a closed class to the text after it. -/
theorem sideConds_bracket {rest body after T : List Char} {neg : Bool}
    (hspan : classSpan rest = some (neg, body, after)) (hesc : endsEscaped ('[' :: rest) = false)
    (hopen : leavesOpen ('[' :: rest) = false ∨ (']' ∉ T ∧ '}' ∉ T)) :
    endsEscaped after = false ∧ (leavesOpen after = false ∨ (']' ∉ T ∧ '}' ∉ T)) := by
  rw [endsEscaped.eq_4] at hesc
  rw [leavesOpen.eq_3] at hopen
  constructor
  · split at hesc <;> simp_all
  · split at hopen <;> simp_all

/-- A `[` that opens no class leaves the body open, so the text after it may
    hold no `]` and no `}`. -/
theorem sideConds_bracket_none {rest T : List Char} (hspan : classSpan rest = none)
    (hesc : endsEscaped ('[' :: rest) = false)
    (hopen : leavesOpen ('[' :: rest) = false ∨ (']' ∉ T ∧ '}' ∉ T)) :
    endsEscaped rest = false ∧ ']' ∉ T ∧ '}' ∉ T := by
  rw [endsEscaped.eq_4] at hesc
  refine ⟨by split at hesc <;> simp_all, ?_⟩
  rcases hopen with hopen | hopen
  · rw [leavesOpen.eq_3] at hopen
    split at hopen <;> simp_all
  · exact hopen

/-- The side conditions pass from a group to the text after it. -/
theorem sideConds_group {rest T : List Char} {close : Nat} {alts : List (List Char)}
    (h : matchBrace ('{' :: rest) = some (close, alts)) (hesc : endsEscaped ('{' :: rest) = false)
    (hopen : leavesOpen ('{' :: rest) = false ∨ (']' ∉ T ∧ '}' ∉ T)) :
    endsEscaped (('{' :: rest).drop (close + 1)) = false ∧
      (leavesOpen (('{' :: rest).drop (close + 1)) = false ∨ (']' ∉ T ∧ '}' ∉ T)) := by
  obtain ⟨marks, hmarks, rfl, -⟩ := matchBrace_eq_some.1 h
  have hfrom := groupMarks_eq_some_iff.1 hmarks
  constructor
  · rwa [endsEscaped.eq_5, hmarks] at hesc
  · rw [leavesOpen.eq_4, hfrom.1] at hopen
    simpa [show ¬marks.length ≤ 2 by omega] using hopen

/-- A `{` that opens no group still opens none when text follows: either its
    braces close without a comma, and then they still do, or they never
    close, and the text has no `}`. -/
theorem sideConds_brace_none {rest T : List Char} (h : matchBrace ('{' :: rest) = none)
    (hesc : endsEscaped ('{' :: rest) = false)
    (hopen : leavesOpen ('{' :: rest) = false ∨ (']' ∉ T ∧ '}' ∉ T)) :
    matchBrace ('{' :: (rest ++ T)) = none ∧ endsEscaped rest = false ∧
      (leavesOpen rest = false ∨ (']' ∉ T ∧ '}' ∉ T)) := by
  have hmarks := matchBrace_eq_none.1 h
  have hesc' : endsEscaped rest = false := by
    rwa [endsEscaped.eq_5, hmarks] at hesc
  rw [matchBrace_eq_none, ← List.cons_append]
  rcases hg : groupMarksFrom ('{' :: rest) 0 0 [0] with _ | m
  · have hno : ']' ∉ T ∧ '}' ∉ T := by
      rcases hopen with hopen | hopen
      · rw [leavesOpen.eq_4, hg] at hopen
        simp at hopen
      · exact hopen
    exact ⟨groupMarks_append_none hmarks hno.2, hesc', .inr hno⟩
  · have hm : m.length ≤ 2 := by
      by_contra hlen
      have := groupMarks_eq_some_iff.2 ⟨hg, by omega⟩
      rw [hmarks] at this
      cases this
    refine ⟨?_, hesc', ?_⟩
    · unfold groupMarks
      rw [groupMarksFrom_append hg]
      simp [hm]
    · rw [leavesOpen.eq_4, hg] at hopen
      simpa [hm] using hopen

/-- Whether a run of `*` is a globstar does not change when text that does
    not extend the run follows the body: the run sees that text's edge. -/
theorem starCond_append {rest T : List Char} (h : dropStars rest ≠ [] ∨ T.head? ≠ some '*')
    (a e : Bool) :
    ((rest ++ T).length - (dropStars (rest ++ T)).length ≥ 1 ∧ a = true ∧
      startsSegment (dropStars (rest ++ T)) e = true) ↔
    (rest.length - (dropStars rest).length ≥ 1 ∧ a = true ∧
      startsSegment (dropStars rest) (startsSegment T e) = true) := by
  rw [dropStars_append_of_head h, startsSegment_append]
  have hlen : (rest ++ T).length - (dropStars rest ++ T).length =
      rest.length - (dropStars rest).length := by
    simp only [List.length_append]
    omega
  rw [hlen]

theorem starCond_append_slash (rest T : List Char) (a e : Bool) :
    ((rest ++ '/' :: T).length - (dropStars (rest ++ '/' :: T)).length ≥ 1 ∧ a = true ∧
      startsSegment (dropStars (rest ++ '/' :: T)) e = true) ↔
    (rest.length - (dropStars rest).length ≥ 1 ∧ a = true ∧
      startsSegment (dropStars rest) true = true) :=
  starCond_append (.inr (by simp)) a e

/-- Reading a body `B` and then a `/`-led text: every token of `B` is read as
    it is read in `B` alone, so only a final globstar of `B` can change. The
    body must not end in a lone backslash, which would take the `/`, and it
    must leave no class or group open unless the text cannot close it. -/
theorem piecesOf_append_slash {B T : List Char} {a e : Bool}
    (hesc : endsEscaped B = false) (hopen : leavesOpen B = false ∨ (']' ∉ T ∧ '}' ∉ T)) :
    SlashJoin (piecesOf B a true) (piecesOf (B ++ '/' :: T) a e) T e := by
  -- induction on the reading of `B`, whose end flag stays `true` throughout
  suffices h : ∀ B a atEnd, atEnd = true → endsEscaped B = false →
      (leavesOpen B = false ∨ (']' ∉ T ∧ '}' ∉ T)) →
      SlashJoin (piecesOf B a atEnd) (piecesOf (B ++ '/' :: T) a e) T e from
    h B a true rfl hesc hopen
  intro B a atEnd
  induction B, a, atEnd using piecesOf.induct with
  | case1 a atEnd =>
    intro _ _ _
    exact .inl (by simp [piecesOf.eq_1, piecesOf_slash_flag])
  | case2 a atEnd =>
    intro _ hesc _
    simp [endsEscaped] at hesc
  | case3 a atEnd c rest hcond =>
    -- `B` is `\/**`: a trailing `/**`, which the `/` turns into `/` and `**/`
    rintro rfl - -
    obtain ⟨rfl, -, hrun⟩ := hcond
    refine .inr (.inr ⟨[], ?_, ?_⟩)
    · simp [piecesOf.eq_3, hrun]
    · rw [List.cons_append, List.cons_append, piecesOf.eq_3, if_neg (by simp [isStarRun_append_slash]),
        beq_self_eq_true, piecesOf_starRun_slash hrun]
      rfl
  | case4 a atEnd c rest hcond ih =>
    rintro rfl hesc hopen
    have hesc' : endsEscaped rest = false := by simpa [endsEscaped] using hesc
    have hopen' : leavesOpen rest = false ∨ (']' ∉ T ∧ '}' ∉ T) := by simpa [leavesOpen] using hopen
    rw [List.cons_append, List.cons_append, piecesOf.eq_3, piecesOf.eq_3, if_neg hcond,
      if_neg (by simp [isStarRun_append_slash])]
    exact (ih rfl hesc' hopen').cons _
  | case5 a atEnd rest hcond =>
    -- `B` is `/**`: the same trailing globstar, without the backslash
    rintro rfl - -
    obtain ⟨-, hrun⟩ := hcond
    refine .inr (.inr ⟨[], ?_, ?_⟩)
    · simp [piecesOf.eq_4, hrun]
    · rw [List.cons_append, piecesOf.eq_4, if_neg (by simp [isStarRun_append_slash]),
        piecesOf_starRun_slash hrun]
      rfl
  | case6 a atEnd rest hcond ih =>
    rintro rfl hesc hopen
    obtain ⟨hesc', hopen'⟩ := sideConds_plain (by decide) (by decide) (by decide) hesc hopen
    rw [List.cons_append, piecesOf.eq_4, piecesOf.eq_4, if_neg hcond,
      if_neg (by simp [isStarRun_append_slash])]
    exact (ih rfl hesc' hopen').cons _
  | case7 a atEnd rest hcond hdrop =>
    -- `B` ends in a bare `**`, which the `/` turns into `**/`
    rintro rfl - -
    have hext := (starCond_append_slash rest T a e).2 hcond
    have hd : dropStars (rest ++ '/' :: T) = '/' :: T := by
      rw [dropStars_append_slash, hdrop, List.nil_append]
    refine .inr (.inl ⟨[], piecesOf_star_anything hcond hdrop, ?_⟩)
    rw [List.cons_append, piecesOf_star_dirs hext hd]
    rfl
  | case8 a atEnd rest hcond head after hdrop ih =>
    rintro rfl hesc hopen
    have hext := (starCond_append_slash rest T a e).2 hcond
    have hd : dropStars (rest ++ '/' :: T) = head :: (after ++ '/' :: T) := by
      rw [dropStars_append_slash, hdrop, List.cons_append]
    -- the run is followed by a `/`, which the globstar takes with it
    have hhead : head = '/' := by
      have := hcond.2.2
      rw [hdrop] at this
      simpa [startsSegment] using this
    have hwalk : dropStars rest = '/' :: after := hhead ▸ hdrop
    obtain ⟨hescRun, hopenRun⟩ := sideConds_star hesc hopen
    rw [hwalk] at hescRun hopenRun
    obtain ⟨hesc', hopen'⟩ := sideConds_plain (by decide) (by decide) (by decide) hescRun hopenRun
    rw [piecesOf_star_dirs hcond hdrop, List.cons_append, piecesOf_star_dirs hext hd]
    exact (ih rfl hesc' hopen').cons _
  | case9 a atEnd rest hcond ih =>
    rintro rfl hesc hopen
    have hext : ¬((rest ++ '/' :: T).length - (dropStars (rest ++ '/' :: T)).length ≥ 1 ∧
        a = true ∧ startsSegment (dropStars (rest ++ '/' :: T)) e = true) := by
      rwa [starCond_append_slash]
    obtain ⟨hesc', hopen'⟩ := sideConds_star hesc hopen
    rw [piecesOf_star_run hcond, List.cons_append, piecesOf_star_run hext, dropStars_append_slash]
    exact (ih rfl hesc' hopen').cons _
  | case10 a atEnd rest ih =>
    rintro rfl hesc hopen
    obtain ⟨hesc', hopen'⟩ := sideConds_plain (by decide) (by decide) (by decide) hesc hopen
    rw [List.cons_append, piecesOf.eq_6, piecesOf.eq_6]
    exact (ih rfl hesc' hopen').cons _
  | case11 a atEnd rest neg body after hspan ih =>
    rintro rfl hesc hopen
    obtain ⟨hesc', hopen'⟩ := sideConds_bracket hspan hesc hopen
    rw [piecesOf_bracket hspan, List.cons_append, piecesOf_bracket (classSpan_append hspan)]
    exact (ih rfl hesc' hopen').cons _
  | case12 a atEnd rest hspan ih =>
    -- an unclosed `[` stays a plain character only if the text has no `]`
    rintro rfl hesc hopen
    obtain ⟨hesc', hno⟩ := sideConds_bracket_none hspan hesc hopen
    have hext : classSpan (rest ++ '/' :: T) = none :=
      classSpan_append_none hspan (by simp [hno.1])
    rw [piecesOf_bracket_none hspan, List.cons_append, piecesOf_bracket_none hext]
    exact (ih rfl hesc' (.inr hno)).cons _
  | case13 a atEnd rest close alts hbrace after ends _ ih =>
    -- the group closes inside `B`: same alternatives, and the text after the
    -- group just grows by the appended text
    rintro rfl hesc hopen
    obtain ⟨hesc', hopen'⟩ := sideConds_group hbrace hesc hopen
    rw [List.cons_append, piecesOf_matchBrace (matchBrace_append hbrace _),
      drop_append_of_matchBrace hbrace, startsSegment_append_slash, piecesOf_matchBrace hbrace]
    exact (ih rfl hesc' hopen').cons _
  | case14 a atEnd rest hnone ih =>
    rintro rfl hesc hopen
    -- the `/` closes nothing, so the conditions on `T` are those on `'/' :: T`
    have hslash : (']' ∉ '/' :: T ∧ '}' ∉ '/' :: T) ↔ (']' ∉ T ∧ '}' ∉ T) := by simp
    obtain ⟨hnone', hesc', hopen'⟩ := sideConds_brace_none hnone hesc (hopen.imp_right hslash.2)
    rw [piecesOf_brace_none (matchBrace_eq_none.1 hnone), List.cons_append,
      piecesOf_brace_none (matchBrace_eq_none.1 hnone')]
    exact (ih rfl hesc' (hopen'.imp_right hslash.1)).cons _
  | case15 a atEnd c rest h1 h2 h3 h4 h5 h6 h7 ih =>
    rintro rfl hesc hopen
    have h0 : c ≠ '\\' := ne_backslash_of_plain h1 h2
    obtain ⟨hesc', hopen'⟩ := sideConds_plain h0 h6 h7 hesc hopen
    rw [piecesOf.eq_9 _ _ c rest h1 h2 h3 h4 h5 h6 h7, List.cons_append,
      piecesOf.eq_9 _ _ c _ (fun h _ => h0 h) (fun _ _ h _ => h0 h) h3 h4 h5 h6 h7]
    exact (ih rfl hesc' hopen').cons _

/-! ## Compiling -/

/-- A glob accepts a path: it compiles, and the compiled pattern accepts the
    path. -/
def Accepts (glob path : String) : Prop :=
  ∃ pat, compile glob = .ok pat ∧ pat.accepts path = true

theorem splitNegation_of_head {cs : List Char} (h : cs.head? ≠ some '!') :
    splitNegation cs = (cs, false) := by
  match cs, h with
  | [], _ => rfl
  | c :: rest, h =>
    have hc : c ≠ '!' := fun hc => h (by simp [hc])
    simp [splitNegation, hc]

theorem firstBadClass_append (xs ys : List Piece) :
    firstBadClass (xs ++ ys) = none ↔ firstBadClass xs = none ∧ firstBadClass ys = none := by
  induction xs with
  | nil => simp [firstBadClass]
  | cons p ps ih =>
    cases p with
    | bracket neg body =>
      simp only [List.cons_append, firstBadClass]
      split <;> simp [ih]
    | group alts =>
      simp only [List.cons_append, firstBadClass]
      split <;> simp [ih]
    | _ => simpa [firstBadClass] using ih

theorem head_append_ne_bang {xs ys : List Char} (hx : xs.head? ≠ some '!')
    (hy : ys.head? ≠ some '!') : (xs ++ ys).head? ≠ some '!' := by
  cases xs with
  | nil => simpa using hy
  | cons c rest => simpa using hx

/-- Text with its first character `/` or `*` carries no negation mark. -/
theorem head_ne_bang_of_head {c : Char} {cs : List Char} (hc : c ≠ '!') :
    (c :: cs).head? ≠ some '!' := by
  simp [hc]

/-- A glob without a leading `!` accepts a path exactly when its classes can
    be read and the path belongs to the language of its pieces. -/
theorem accepts_iff {glob path : String} (h : glob.toList.head? ≠ some '!') :
    Accepts glob path ↔ firstBadClass (piecesOf glob.toList true true) = none ∧
      path.toList ∈ Piece.seqLang (piecesOf glob.toList true true) := by
  simp only [Accepts, compile, splitNegation_of_head h]
  constructor
  · rintro ⟨pat, hc, hacc⟩
    split at hc
    · cases hc
    · next hbad =>
      cases hc
      simp only [Pattern.accepts] at hacc
      exact ⟨hbad, fullMatch_iff.1 (by simpa using hacc)⟩
  · rintro ⟨hbad, hmem⟩
    rw [hbad]
    exact ⟨_, rfl, by simpa [Pattern.accepts, fullMatch_iff] using hmem⟩

end ChangeFilter.Glob
