import ChangeFilter.Proofs.Glob.Reading

/-! # Glob patterns: the brace scan

    A `{` opens a group when the scan that starts on it finds the closing
    brace and a comma at depth one. The scan reads the text left to right; a
    backslash is read and hides the character after it, even a brace or a
    comma, so a backslash at the very end hides nothing. An opening brace
    adds one to the depth, a closing brace takes one away, and the scan stops
    on the closing brace that brings the depth back to zero.

    `scanSteps` lists what the scan reads, each character with its index, and
    `braceDepth` the depth that a part of it leaves. `groupMarksFrom` keeps its
    depth and marks as it reads; `closeScan` does the same over the list of
    steps, so that escapes are dealt with once, by `scanSteps`, and the depth
    once, by `closeScan`.

    Main statements:
    * `closeScan_eq_some_iff` — the scan stops on the first closing brace read
      at depth one, and marks the commas read at depth one before it;
    * `groupMarks_eq_some_iff_closesAt` — the marks of a group text;
    * `matchBrace_scan` — a group exists exactly when the depth comes back to
      zero after a comma at depth one; the group text is then its
      alternatives joined by commas between braces, there are at least two,
      and none holds a comma at its own top level or ends in a backslash
      that hides nothing. -/

namespace ChangeFilter.Glob

/-! ## What the scan reads -/

/-- The steps of the brace scan over a text whose head has index `i`: each
    character it reads, with its index. A backslash is read and hides the
    character after it. -/
def scanSteps : List Char → Nat → List (Nat × Char)
  | [], _ => []
  | ['\\'], i => [(i, '\\')]
  | '\\' :: _ :: rest, i => (i, '\\') :: scanSteps rest (i + 2)
  | c :: rest, i => (i, c) :: scanSteps rest (i + 1)

/-- Whether a text ends in a backslash that hides nothing. -/
def endsUnpaired : List Char → Bool
  | [] => false
  | ['\\'] => true
  | '\\' :: _ :: rest => endsUnpaired rest
  | _ :: rest => endsUnpaired rest

theorem scanSteps_cons_of_ne {c : Char} (h : c ≠ '\\') (rest : List Char) (i : Nat) :
    scanSteps (c :: rest) i = (i, c) :: scanSteps rest (i + 1) :=
  scanSteps.eq_4 _ _ _ (fun h' _ => h h') (fun _ _ h' _ => h h')

theorem endsUnpaired_cons_of_ne {c : Char} (h : c ≠ '\\') (rest : List Char) :
    endsUnpaired (c :: rest) = endsUnpaired rest :=
  endsUnpaired.eq_4 _ _ (fun h' _ => h h') (fun _ _ h' _ => h h')

/-- Where a text starts moves every index of its scan by as much. -/
theorem scanSteps_shift (cs : List Char) (i k : Nat) :
    scanSteps cs (i + k) = (scanSteps cs i).map fun s => (s.1 + k, s.2) := by
  induction cs, i using scanSteps.induct with
  | case1 i => rfl
  | case2 i => simp [scanSteps]
  | case3 c rest i ih =>
    simp only [scanSteps, List.map_cons, List.cons.injEq, true_and]
    rw [← ih]
    congr 1
    omega
  | case4 c rest i h1 h2 ih =>
    have hc := ne_backslash_of_plain h1 h2
    rw [scanSteps_cons_of_ne hc, scanSteps_cons_of_ne hc, List.map_cons, ← ih]
    congr 2
    omega

/-- Each step of the scan is a character of the text, at its index. -/
theorem getElem?_of_mem_scanSteps {cs : List Char} {i : Nat} {s : Nat × Char}
    (h : s ∈ scanSteps cs i) : i ≤ s.1 ∧ cs[s.1 - i]? = some s.2 := by
  induction cs, i using scanSteps.induct with
  | case1 i => simp [scanSteps] at h
  | case2 i =>
    simp only [scanSteps, List.mem_singleton] at h
    subst h
    simp
  | case3 c rest i ih =>
    simp only [scanSteps, List.mem_cons] at h
    rcases h with rfl | h
    · simp
    · obtain ⟨hle, hget⟩ := ih h
      refine ⟨by omega, ?_⟩
      rw [show s.1 - i = s.1 - (i + 2) + 1 + 1 by omega]
      simpa using hget
  | case4 c rest i h1 h2 ih =>
    rw [scanSteps_cons_of_ne (ne_backslash_of_plain h1 h2), List.mem_cons] at h
    rcases h with rfl | h
    · simp
    · obtain ⟨hle, hget⟩ := ih h
      refine ⟨by omega, ?_⟩
      rw [show s.1 - i = s.1 - (i + 1) + 1 by omega]
      simpa using hget

/-- A step of the scan at index `x`, on the character there. -/
theorem getElem?_of_scanSteps_eq {cs : List Char} {P Q : List (Nat × Char)} {x : Nat} {c : Char}
    (h : scanSteps cs 0 = P ++ (x, c) :: Q) : cs[x]? = some c := by
  have hmem : (x, c) ∈ scanSteps cs 0 := by
    rw [h]
    simp
  simpa using (getElem?_of_mem_scanSteps hmem).2

/-- The scan's first step is the head of the text. -/
theorem scanSteps_cons (d : Char) (rest : List Char) (i : Nat) :
    ∃ Q, scanSteps (d :: rest) i = (i, d) :: Q := by
  by_cases hd : d = '\\'
  · subst hd
    cases rest <;> simp [scanSteps]
  · exact ⟨_, scanSteps_cons_of_ne hd rest i⟩

/-- The scan reads the text left to right: its indices increase. -/
theorem scanSteps_pairwise (cs : List Char) (i : Nat) :
    (scanSteps cs i).Pairwise fun s t => s.1 < t.1 := by
  induction cs, i using scanSteps.induct with
  | case1 i => simp [scanSteps]
  | case2 i => simp [scanSteps]
  | case3 c rest i ih =>
    simp only [scanSteps, List.pairwise_cons]
    exact ⟨fun t ht => by have := (getElem?_of_mem_scanSteps ht).1; omega, ih⟩
  | case4 c rest i h1 h2 ih =>
    rw [scanSteps_cons_of_ne (ne_backslash_of_plain h1 h2), List.pairwise_cons]
    exact ⟨fun t ht => by have := (getElem?_of_mem_scanSteps ht).1; omega, ih⟩

/-- A text that ends on no unpaired backslash is read on its own, and what
    follows it is read from its end. -/
theorem scanSteps_append {xs : List Char} (h : endsUnpaired xs = false) (ys : List Char)
    (i : Nat) : scanSteps (xs ++ ys) i = scanSteps xs i ++ scanSteps ys (i + xs.length) := by
  induction xs, i using scanSteps.induct with
  | case1 i => simp [scanSteps]
  | case2 i => simp [endsUnpaired] at h
  | case3 c rest i ih =>
    simp only [endsUnpaired] at h
    simp only [List.cons_append, scanSteps, ih h, List.length_cons]
    congr 3
    omega
  | case4 c rest i h1 h2 ih =>
    have hc := ne_backslash_of_plain h1 h2
    rw [endsUnpaired_cons_of_ne hc] at h
    rw [List.cons_append, scanSteps_cons_of_ne hc, scanSteps_cons_of_ne hc, ih h,
      List.length_cons]
    congr 3
    omega

theorem endsUnpaired_append {xs : List Char} (h : endsUnpaired xs = false) (ys : List Char) :
    endsUnpaired (xs ++ ys) = endsUnpaired ys := by
  induction xs using endsUnpaired.induct with
  | case1 => rfl
  | case2 => simp [endsUnpaired] at h
  | case3 c rest ih =>
    simp only [endsUnpaired] at h
    simp only [List.cons_append, endsUnpaired, ih h]
  | case4 c rest h1 h2 ih =>
    have hc := ne_backslash_of_plain h1 h2
    rw [endsUnpaired_cons_of_ne hc] at h
    rw [List.cons_append, endsUnpaired_cons_of_ne hc, ih h]

/-- A step of the scan cuts the text where it stands: the text before it is
    read as the steps before it, and ends on no unpaired backslash. -/
theorem split_of_scanSteps {cs : List Char} {i : Nat} {pre post : List (Nat × Char)} {x : Nat}
    {c : Char} (h : scanSteps cs i = pre ++ (x, c) :: post) :
    ∃ xs ys, cs = xs ++ ys ∧ i + xs.length = x ∧ endsUnpaired xs = false ∧
      scanSteps xs i = pre ∧ scanSteps ys x = (x, c) :: post := by
  induction cs, i using scanSteps.induct generalizing pre with
  | case1 i => simp [scanSteps] at h
  | case2 i =>
    simp only [scanSteps, List.cons_eq_append_iff, List.nil_eq_append_iff] at h
    rcases h with ⟨rfl, h⟩ | ⟨_, _, _, h⟩
    · simp only [List.cons.injEq, Prod.mk.injEq] at h
      obtain ⟨⟨rfl, rfl⟩, rfl⟩ := h
      exact ⟨[], ['\\'], rfl, rfl, rfl, rfl, rfl⟩
    · simp at h
  | case3 d rest i ih =>
    simp only [scanSteps, List.cons_eq_append_iff] at h
    rcases h with ⟨rfl, h⟩ | ⟨pre', rfl, h⟩
    · simp only [List.cons.injEq, Prod.mk.injEq] at h
      obtain ⟨⟨rfl, rfl⟩, rfl⟩ := h
      exact ⟨[], _, rfl, rfl, rfl, rfl, by simp [scanSteps]⟩
    · obtain ⟨xs, ys, rfl, hlen, hend, hxs, hys⟩ := ih h
      refine ⟨'\\' :: d :: xs, ys, rfl, by simp; omega, by simpa [endsUnpaired] using hend,
        by simp [scanSteps, hxs], hys⟩
  | case4 d rest i h1 h2 ih =>
    have hd := ne_backslash_of_plain h1 h2
    rw [scanSteps_cons_of_ne hd, List.cons_eq_append_iff] at h
    rcases h with ⟨rfl, h⟩ | ⟨pre', rfl, h⟩
    · simp only [List.cons.injEq, Prod.mk.injEq] at h
      obtain ⟨⟨rfl, rfl⟩, rfl⟩ := h
      exact ⟨[], _, rfl, rfl, rfl, rfl, by rw [scanSteps_cons_of_ne hd]⟩
    · obtain ⟨xs, ys, rfl, hlen, hend, hxs, hys⟩ := ih h
      refine ⟨d :: xs, ys, rfl, by simp; omega, by rwa [endsUnpaired_cons_of_ne hd],
        by rw [scanSteps_cons_of_ne hd, hxs], hys⟩

/-- The text before `b` is the text up to `a`, then the part between. -/
theorem take_eq_append_between (T : List Char) {a b : Nat} (hab : a < b) :
    T.take b = T.take (a + 1) ++ between T a b := by
  rw [between, ← List.take_add]
  congr 1
  omega

/-- The text between two steps `a < b` of a scan, `a` on a character other
    than a backslash: it ends on no unpaired backslash, and the scan of the
    whole text reads it, right after `a`, as it reads itself from there. -/
theorem scan_between {T : List Char} {P Q P₂ Q₂ : List (Nat × Char)} {a b : Nat} {c c₂ : Char}
    (ha : scanSteps T 0 = P ++ (a, c) :: Q) (hc : c ≠ '\\')
    (hb : scanSteps T 0 = P₂ ++ (b, c₂) :: Q₂) (hab : a < b) :
    endsUnpaired (between T a b) = false ∧
      ∃ R, scanSteps T 0 = P ++ (a, c) :: (scanSteps (between T a b) (a + 1) ++ R) := by
  obtain ⟨X, Y, hXY, hX, hXend, hXsteps, hY⟩ := split_of_scanSteps ha
  obtain ⟨X₂, Y₂, hXY₂, hX₂, hX₂end, -, -⟩ := split_of_scanSteps hb
  -- the text from `a` on starts with `c`
  obtain ⟨Y', rfl⟩ : ∃ Y', Y = c :: Y' := by
    cases Y with
    | nil => simp [scanSteps] at hY
    | cons d Y' =>
      obtain ⟨Q', hQ'⟩ := scanSteps_cons d Y' a
      rw [hQ', List.cons.injEq, Prod.mk.injEq] at hY
      exact ⟨Y', by rw [hY.1.2]⟩
  -- the text before `b` is the text before `a`, then `c`, then the part between
  have hX₂eq : X₂ = X ++ c :: between T a b := by
    have h1 : T.take b = X₂ := by rw [hXY₂, ← hX₂]; simp
    have h2 : T.take (a + 1) = X ++ [c] := by
      rw [hXY, ← hX, Nat.zero_add, List.take_length_add_append]
      rfl
    rw [← h1, take_eq_append_between T hab, h2, List.append_assoc]
    rfl
  have hsteps₂ : scanSteps T 0 = scanSteps X₂ 0 ++ scanSteps Y₂ b := by
    rw [hXY₂, scanSteps_append hX₂end, hX₂]
  have hX₂steps : scanSteps X₂ 0 = P ++ (a, c) :: scanSteps (between T a b) (a + 1) := by
    rw [hX₂eq, scanSteps_append hXend, hXsteps, scanSteps_cons_of_ne hc, hX]
  rw [hX₂eq, endsUnpaired_append hXend, endsUnpaired_cons_of_ne hc] at hX₂end
  refine ⟨hX₂end, scanSteps Y₂ b, ?_⟩
  rw [hsteps₂, hX₂steps]
  simp

/-! ## The depth of the scan -/

/-- How reading a character moves the brace depth. -/
def depthStep (c : Char) : Int :=
  if c = '{' then 1 else if c = '}' then -1 else 0

/-- The brace depth that reading some steps from depth zero leaves. -/
def braceDepth : List (Nat × Char) → Int
  | [] => 0
  | s :: rest => depthStep s.2 + braceDepth rest

@[simp] theorem braceDepth_nil : braceDepth [] = 0 := rfl

@[simp] theorem braceDepth_cons (s : Nat × Char) (rest : List (Nat × Char)) :
    braceDepth (s :: rest) = depthStep s.2 + braceDepth rest := rfl

@[simp] theorem braceDepth_append (xs ys : List (Nat × Char)) :
    braceDepth (xs ++ ys) = braceDepth xs + braceDepth ys := by
  induction xs with
  | nil => simp
  | cons s rest ih => simp [ih, Int.add_assoc]

@[simp] theorem braceDepth_shift (steps : List (Nat × Char)) (k : Nat) :
    braceDepth (steps.map fun s => (s.1 + k, s.2)) = braceDepth steps := by
  induction steps with
  | nil => rfl
  | cons s rest ih => simp [ih]

/-- The steps read a comma after a part of them that leaves depth `d`. -/
def ReadsCommaAt (steps : List (Nat × Char)) (d : Int) : Prop :=
  ∃ q j post, steps = q ++ (j, ',') :: post ∧ braceDepth q = d

/-- A split of a list at an element `x`, seen from its head. -/
theorem exists_split_cons {α : Type} {s x : α} {rest : List α} {P : List α → List α → Prop} :
    (∃ q post, s :: rest = q ++ x :: post ∧ P q post) ↔
      (s = x ∧ P [] rest) ∨ ∃ q post, rest = q ++ x :: post ∧ P (s :: q) post := by
  constructor
  · rintro ⟨q, post, h, hp⟩
    rcases List.cons_eq_append_iff.1 h with ⟨rfl, hx⟩ | ⟨q', rfl, hrest⟩
    · simp only [List.cons.injEq] at hx
      obtain ⟨rfl, rfl⟩ := hx
      exact .inl ⟨rfl, hp⟩
    · exact .inr ⟨q', post, hrest, hp⟩
  · rintro (⟨rfl, hp⟩ | ⟨q, post, rfl, hp⟩)
    · exact ⟨[], rest, rfl, hp⟩
    · exact ⟨s :: q, post, rfl, hp⟩

/-- Of two steps of a scan, the one with the smaller index comes first. -/
theorem split_of_lt {L X Y Z W : List (Nat × Char)} {u v : Nat × Char}
    (hs : L.Pairwise fun s t => s.1 < t.1) (h1 : L = X ++ u :: Y) (h2 : L = Z ++ v :: W)
    (hlt : u.1 < v.1) : ∃ M, Z = X ++ u :: M := by
  rcases List.append_eq_append_iff.1 (h1.symm.trans h2) with ⟨M, rfl, h⟩ | ⟨M, rfl, h⟩
  · cases M with
    | nil =>
      simp only [List.nil_append, List.cons.injEq] at h
      rw [h.1] at hlt
      exact absurd hlt (Nat.lt_irrefl _)
    | cons w M =>
      simp only [List.cons_append, List.cons.injEq] at h
      exact ⟨M, by rw [h.1]⟩
  · -- `v` would come before `u`, with a smaller index
    cases M with
    | nil =>
      simp only [List.nil_append, List.cons.injEq] at h
      rw [h.1] at hlt
      exact absurd hlt (Nat.lt_irrefl _)
    | cons w M =>
      simp only [List.cons_append, List.cons.injEq] at h
      obtain ⟨rfl, rfl⟩ := h
      rw [h2, List.pairwise_append, List.pairwise_cons] at hs
      have := hs.2.1.1 u (by simp)
      omega

/-! ## The group scan over its steps -/

/-- The depth and marks the group scan keeps, over the steps it reads. The
    depth goes up on an opening brace and down on a closing one; a comma at
    depth one is marked; a closing brace at depth one ends the scan with the
    marks, oldest first, followed by its own index. -/
def closeScan : List (Nat × Char) → Nat → List Nat → Option (List Nat)
  | [], _, _ => none
  | (i, c) :: rest, depth, marks =>
    if c = '{' then closeScan rest (depth + 1) marks
    else if c = '}' then
      if depth = 1 then some (i :: marks).reverse else closeScan rest (depth - 1) marks
    else if c = ',' ∧ depth = 1 then closeScan rest depth (i :: marks)
    else closeScan rest depth marks

/-- The group scan is the depth keeping over what the scan reads. -/
theorem groupMarksFrom_eq_closeScan (cs : List Char) (i depth : Nat) (marks : List Nat) :
    groupMarksFrom cs i depth marks = closeScan (scanSteps cs i) depth marks := by
  induction cs, i, depth, marks using groupMarksFrom.induct with
  | case1 => rfl
  | case2 => simp [groupMarksFrom, scanSteps, closeScan]
  | case3 c rest i depth marks ih => simp [groupMarksFrom, scanSteps, closeScan, ih]
  | case4 rest i depth marks ih =>
    simp only [groupMarksFrom, scanSteps_cons_of_ne (show '{' ≠ '\\' by decide)]
    simp [closeScan, ih]
  | case5 rest i marks =>
    simp only [groupMarksFrom, scanSteps_cons_of_ne (show '}' ≠ '\\' by decide)]
    simp [closeScan]
  | case6 rest i depth marks hd ih =>
    simp only [groupMarksFrom, scanSteps_cons_of_ne (show '}' ≠ '\\' by decide)]
    simp [closeScan, hd, ih]
  | case7 rest i marks ih =>
    simp only [groupMarksFrom, scanSteps_cons_of_ne (show ',' ≠ '\\' by decide)]
    simp [closeScan, ih]
  | case8 rest i depth marks hd ih =>
    simp only [groupMarksFrom, scanSteps_cons_of_ne (show ',' ≠ '\\' by decide)]
    simp [closeScan, hd, ih]
  | case9 c rest i depth marks h1 h2 h3 h4 h5 ih =>
    have hc := ne_backslash_of_plain h1 h2
    rw [groupMarksFrom_plain hc h3 h4 h5, scanSteps_cons_of_ne hc, closeScan, if_neg h3,
      if_neg h4, if_neg (fun h => h5 h.1), ih]

/-- One step of the group scan that does not end it: the depth moves as the
    character says, and a comma at depth one is marked. -/
theorem closeScan_step {i : Nat} {c : Char} {rest : List (Nat × Char)} {depth : Nat}
    {marks : List Nat} (h : ¬(c = '}' ∧ depth = 1)) :
    closeScan ((i, c) :: rest) depth marks =
      closeScan rest ((depth : Int) + depthStep c).toNat
        (if c = ',' ∧ depth = 1 then i :: marks else marks) := by
  by_cases h1 : c = '{'
  · subst h1
    simp [closeScan, depthStep]
  · by_cases h2 : c = '}'
    · subst h2
      have hd : depth ≠ 1 := fun hd => h ⟨rfl, hd⟩
      simp only [closeScan, h1, hd, depthStep, if_false, if_true]
      congr 1
      omega
    · simp only [closeScan, depthStep, h1, h2, if_false, Int.add_zero, Int.toNat_natCast]
      split_ifs <;> rfl

/-- Away from a closing brace at depth one, a step leaves the depth at
    least one. -/
theorem one_le_depth_step {c : Char} {depth : Nat} (hd : 1 ≤ depth)
    (h : ¬(c = '}' ∧ depth = 1)) : 1 ≤ (depth : Int) + depthStep c := by
  unfold depthStep
  split_ifs with h1 h2
  · omega
  · have : depth ≠ 1 := fun h' => h ⟨h2, h'⟩
    omega
  · omega

/-- The indices of the commas read at depth one, by a scan from depth `d`. -/
def depthOneCommas : List (Nat × Char) → Int → List Nat
  | [], _ => []
  | (j, c) :: rest, d =>
    if c = ',' ∧ d = 1 then j :: depthOneCommas rest (d + depthStep c)
    else depthOneCommas rest (d + depthStep c)

theorem depthOneCommas_cons (j : Nat) (c : Char) (rest : List (Nat × Char)) (d : Int) :
    depthOneCommas ((j, c) :: rest) d =
      (if c = ',' ∧ d = 1 then [j] else []) ++ depthOneCommas rest (d + depthStep c) := by
  simp only [depthOneCommas]
  split <;> rfl

/-- The scan closes on `pre` and a closing brace when the depth stays at
    least one over `pre` and is one at its end; it returns the marks it was
    given, the commas read at depth one and the brace. -/
theorem closeScan_of_split {e : Nat} {post : List (Nat × Char)} :
    ∀ {pre : List (Nat × Char)} {depth : Nat} {marks : List Nat},
      (∀ q, q <+: pre → 1 ≤ (depth : Int) + braceDepth q) → (depth : Int) + braceDepth pre = 1 →
      closeScan (pre ++ (e, '}') :: post) depth marks =
        some (marks.reverse ++ depthOneCommas pre depth ++ [e])
  | [], depth, marks, _, hend => by
    have hd : depth = 1 := by simp at hend; omega
    simp [closeScan, hd, depthOneCommas]
  | (j, c) :: pre, depth, marks, hpos, hend => by
    have hstep : 1 ≤ (depth : Int) + depthStep c := by
      simpa using hpos [(j, c)] (by simp)
    have hnot : ¬(c = '}' ∧ depth = 1) := by
      rintro ⟨rfl, rfl⟩
      simp [depthStep] at hstep
    have hcast : ((((depth : Int) + depthStep c).toNat : Nat) : Int) = depth + depthStep c :=
      Int.toNat_of_nonneg (by omega)
    rw [List.cons_append, closeScan_step hnot, closeScan_of_split, hcast, depthOneCommas_cons]
    · by_cases hc : c = ',' ∧ depth = 1 <;> simp [hc]
    · intro q hq
      have := hpos ((j, c) :: q) ((List.prefix_cons_inj _).2 hq)
      rw [hcast]
      simp only [braceDepth_cons] at this
      omega
    · rw [hcast]
      simp only [braceDepth_cons] at hend
      omega

/-- What a closing scan has read: steps `pre` over which the depth stays at
    least one and ends at one, then the closing brace. -/
theorem split_of_closeScan :
    ∀ {steps : List (Nat × Char)} {depth : Nat} {marks r : List Nat}, 1 ≤ depth →
      closeScan steps depth marks = some r →
      ∃ pre e post, steps = pre ++ (e, '}') :: post ∧
        (∀ q, q <+: pre → 1 ≤ (depth : Int) + braceDepth q) ∧ (depth : Int) + braceDepth pre = 1 ∧
        r = marks.reverse ++ depthOneCommas pre depth ++ [e]
  | [], _, _, _, _, h => by simp [closeScan] at h
  | (j, c) :: rest, depth, marks, r, hd, h => by
    by_cases hclose : c = '}' ∧ depth = 1
    · -- the scan ends on this brace
      obtain ⟨rfl, rfl⟩ := hclose
      simp [closeScan] at h
      refine ⟨[], j, rest, rfl, fun q hq => ?_, by simp, by simp [depthOneCommas, ← h]⟩
      rw [List.prefix_nil.1 hq]
      simp
    · have hstep := one_le_depth_step hd hclose
      have hcast : ((((depth : Int) + depthStep c).toNat : Nat) : Int) = depth + depthStep c :=
        Int.toNat_of_nonneg (by omega)
      rw [closeScan_step hclose] at h
      obtain ⟨pre, e, post, rfl, hpos, hend, rfl⟩ := split_of_closeScan (by omega) h
      refine ⟨(j, c) :: pre, e, post, rfl, ?_, ?_, ?_⟩
      · intro q hq
        rcases List.prefix_cons_iff.1 hq with rfl | ⟨t, rfl, ht⟩
        · simp only [braceDepth_nil]
          omega
        · have := hpos t ht
          rw [hcast] at this
          simp only [braceDepth_cons]
          omega
      · rw [hcast] at hend
        simp only [braceDepth_cons]
        omega
      · rw [hcast, depthOneCommas_cons]
        by_cases hc : c = ',' ∧ depth = 1 <;> simp [hc]

/-- The group scan from depth one or more stops on the first closing brace
    that it reads at depth one; it returns the marks it was given, the commas
    it read at depth one, and that brace. -/
theorem closeScan_eq_some_iff {steps : List (Nat × Char)} {depth : Nat} (hd : 1 ≤ depth)
    {marks r : List Nat} :
    closeScan steps depth marks = some r ↔
      ∃ pre e post, steps = pre ++ (e, '}') :: post ∧
        (∀ q, q <+: pre → 1 ≤ (depth : Int) + braceDepth q) ∧ (depth : Int) + braceDepth pre = 1 ∧
        r = marks.reverse ++ depthOneCommas pre depth ++ [e] := by
  constructor
  · exact split_of_closeScan hd
  · rintro ⟨pre, e, post, rfl, hpos, hend, rfl⟩
    exact closeScan_of_split hpos hend

/-- The commas `depthOneCommas` lists are the ones read at depth one. -/
theorem mem_depthOneCommas {j : Nat} :
    ∀ {steps : List (Nat × Char)} {d : Int},
      j ∈ depthOneCommas steps d ↔ ∃ q post, steps = q ++ (j, ',') :: post ∧ d + braceDepth q = 1
  | [], d => by simp [depthOneCommas]
  | (k, c) :: rest, d => by
    rw [exists_split_cons, depthOneCommas_cons, List.mem_append, mem_depthOneCommas]
    simp only [braceDepth_nil, braceDepth_cons, Prod.mk.injEq, ← Int.add_assoc]
    by_cases hc : c = ',' ∧ d = 1
    · obtain ⟨rfl, rfl⟩ := hc
      simp [eq_comm]
    · simp only [hc, if_false, List.not_mem_nil, false_or]
      constructor
      · exact .inr
      · rintro (⟨⟨rfl, rfl⟩, hd⟩ | h)
        · exact absurd ⟨rfl, by omega⟩ hc
        · exact h

theorem depthOneCommas_ne_nil_iff {steps : List (Nat × Char)} {d : Int} :
    depthOneCommas steps d ≠ [] ↔ ReadsCommaAt steps (1 - d) := by
  constructor
  · intro h
    obtain ⟨j, hj⟩ := List.exists_mem_of_ne_nil _ h
    obtain ⟨q, post, rfl, hq⟩ := mem_depthOneCommas.1 hj
    exact ⟨q, j, post, rfl, by omega⟩
  · rintro ⟨q, j, post, rfl, hq⟩
    exact List.ne_nil_of_mem (mem_depthOneCommas.2 ⟨q, post, rfl, by omega⟩)

/-! ## The marks of a group -/

/-- The scan of `cs` reads `pre`, then a closing brace at index `e` that
    first brings the depth back to zero: every nonempty part of `pre` read so
    far leaves the depth positive. -/
def ClosesAt (cs : List Char) (e : Nat) (pre : List (Nat × Char)) : Prop :=
  (∃ post, scanSteps cs 0 = pre ++ (e, '}') :: post) ∧
    (∀ q, q <+: pre → q ≠ [] → 0 < braceDepth q) ∧ braceDepth (pre ++ [(e, '}')]) = 0

theorem scanSteps_brace (rest : List Char) :
    scanSteps ('{' :: rest) 0 = (0, '{') :: scanSteps rest 1 :=
  scanSteps_cons_of_ne (by decide) rest 0

/-- The scan of a group text, after its opening brace, from depth one. -/
theorem closesAt_brace_iff {rest : List Char} {e : Nat} {pre : List (Nat × Char)} :
    ClosesAt ('{' :: rest) e pre ↔ ∃ pre', pre = (0, '{') :: pre' ∧
      (∃ post, scanSteps rest 1 = pre' ++ (e, '}') :: post) ∧
      (∀ q, q <+: pre' → 1 ≤ ((1 : Nat) : Int) + braceDepth q) ∧
      ((1 : Nat) : Int) + braceDepth pre' = 1 := by
  simp only [ClosesAt, scanSteps_brace]
  constructor
  · rintro ⟨⟨post, hsteps⟩, hpos, hend⟩
    cases pre with
    | nil => simp at hsteps
    | cons s pre' =>
      simp only [List.cons_append, List.cons.injEq] at hsteps
      obtain ⟨rfl, hsteps⟩ := hsteps
      refine ⟨pre', rfl, ⟨post, hsteps⟩, fun q hq => ?_, ?_⟩
      · have := hpos ((0, '{') :: q) ((List.prefix_cons_inj _).2 hq) (List.cons_ne_nil _ _)
        simp only [braceDepth_cons, depthStep, if_true] at this
        omega
      · simp [depthStep] at hend
        omega
  · rintro ⟨pre', rfl, ⟨post, hsteps⟩, hpos, hend⟩
    refine ⟨⟨post, by simp [hsteps]⟩, fun q hq hne => ?_, ?_⟩
    · rcases List.prefix_cons_iff.1 hq with rfl | ⟨t, rfl, ht⟩
      · exact absurd rfl hne
      · have := hpos t ht
        simp only [braceDepth_cons, depthStep, if_true]
        omega
    · simp [depthStep]
      omega

theorem depthOneCommas_brace (pre : List (Nat × Char)) :
    depthOneCommas ((0, '{') :: pre) 0 = depthOneCommas pre 1 := by
  simp [depthOneCommas_cons, depthStep]

/-- The marks of a group text: the opening brace at `0`, the commas read at
    depth one before the closing brace, and that brace; there is a group only
    when there is such a comma. -/
theorem groupMarks_eq_some_iff_closesAt {rest : List Char} {marks : List Nat} :
    groupMarks ('{' :: rest) = some marks ↔
      ∃ e pre, ClosesAt ('{' :: rest) e pre ∧ ReadsCommaAt pre 1 ∧
        marks = 0 :: (depthOneCommas pre 0 ++ [e]) := by
  have hstart : groupMarksFrom ('{' :: rest) 0 0 [0] = closeScan (scanSteps rest 1) 1 [0] := by
    rw [groupMarksFrom.eq_4, groupMarksFrom_eq_closeScan]
  -- a comma at depth one in the group is one at depth zero after its brace
  have hcomma : ∀ pre', ReadsCommaAt ((0, '{') :: pre') 1 ↔ depthOneCommas pre' 1 ≠ [] := by
    intro pre'
    rw [← depthOneCommas_brace, depthOneCommas_ne_nil_iff]
    rfl
  rw [groupMarks_eq_some_iff, hstart, closeScan_eq_some_iff (le_refl 1)]
  constructor
  · rintro ⟨⟨pre', e, post, hsteps, hpos, hend, rfl⟩, hlen⟩
    refine ⟨e, (0, '{') :: pre', closesAt_brace_iff.2 ⟨pre', rfl, ⟨post, hsteps⟩, hpos, hend⟩,
      (hcomma pre').2 ?_, by simp [depthOneCommas_brace]⟩
    intro hnil
    simp [hnil] at hlen
  · rintro ⟨e, pre, hcl, hread, rfl⟩
    obtain ⟨pre', rfl, ⟨post, hsteps⟩, hpos, hend⟩ := closesAt_brace_iff.1 hcl
    refine ⟨⟨pre', e, post, hsteps, hpos, hend, by simp [depthOneCommas_brace]⟩, ?_⟩
    have hne := (hcomma pre').1 hread
    rw [depthOneCommas_brace]
    cases hD : depthOneCommas pre' 1 with
    | nil => exact absurd hD hne
    | cons j D => simp

theorem depthOneCommas_sublist : ∀ (steps : List (Nat × Char)) (d : Int),
    List.Sublist (depthOneCommas steps d) (steps.map Prod.fst)
  | [], _ => by simp [depthOneCommas]
  | (j, c) :: rest, d => by
    rw [depthOneCommas_cons, List.map_cons]
    split
    · exact (depthOneCommas_sublist rest _).cons_cons j
    · exact (depthOneCommas_sublist rest _).cons j

section Marks

variable {rest : List Char} {e : Nat} {pre : List (Nat × Char)}

/-- The marks of a group are indices of steps of its scan, in order. -/
theorem marks_sublist (hcl : ClosesAt ('{' :: rest) e pre) :
    List.Sublist (0 :: (depthOneCommas pre 0 ++ [e])) ((scanSteps ('{' :: rest) 0).map Prod.fst) := by
  obtain ⟨pre', rfl, ⟨post, hsteps⟩, -, -⟩ := closesAt_brace_iff.1 hcl
  rw [depthOneCommas_brace, scanSteps_brace, hsteps]
  simp only [List.map_cons, List.map_append]
  exact (((depthOneCommas_sublist pre' 1).append
    ((List.nil_sublist _).cons_cons e)).cons_cons 0)

theorem marks_pairwise (hcl : ClosesAt ('{' :: rest) e pre) :
    (0 :: (depthOneCommas pre 0 ++ [e])).Pairwise (· < ·) :=
  (List.pairwise_map.2 (scanSteps_pairwise _ 0)).sublist (marks_sublist hcl)

theorem le_of_mem_marks (hcl : ClosesAt ('{' :: rest) e pre) {x : Nat}
    (hx : x ∈ 0 :: (depthOneCommas pre 0 ++ [e])) : x ≤ e := by
  have hs := marks_pairwise hcl
  rw [← List.cons_append, List.pairwise_append] at hs
  rw [← List.cons_append, List.mem_append, List.mem_singleton] at hx
  rcases hx with hx | rfl
  · exact (hs.2.2 x hx e (by simp)).le
  · exact le_rfl

/-- Every mark is read by the scan. -/
theorem step_of_mem_marks (hcl : ClosesAt ('{' :: rest) e pre) {x : Nat}
    (hx : x ∈ 0 :: (depthOneCommas pre 0 ++ [e])) :
    ∃ P c Q, scanSteps ('{' :: rest) 0 = P ++ (x, c) :: Q := by
  obtain ⟨s, hs, rfl⟩ := List.mem_map.1 ((marks_sublist hcl).subset hx)
  obtain ⟨P, Q, hPQ⟩ := List.append_of_mem hs
  exact ⟨P, s.2, Q, hPQ⟩

/-- A mark before the closing brace is the opening brace or a comma, and the
    scan is at depth one right after it. -/
theorem step_of_open_mark (hcl : ClosesAt ('{' :: rest) e pre) {x : Nat}
    (hx : x ∈ 0 :: depthOneCommas pre 0) :
    ∃ P c Q, scanSteps ('{' :: rest) 0 = P ++ (x, c) :: Q ∧ c ≠ '\\' ∧
      braceDepth P + depthStep c = 1 := by
  rcases List.mem_cons.1 hx with rfl | hx
  · exact ⟨[], '{', _, scanSteps_brace rest, by decide, by simp [depthStep]⟩
  · obtain ⟨q, w, rfl, hq⟩ := mem_depthOneCommas.1 hx
    obtain ⟨⟨post, hsteps⟩, -, -⟩ := hcl
    exact ⟨q, ',', w ++ (e, '}') :: post, by simp [hsteps], by decide,
      by simp [depthStep]; omega⟩

/-- A comma read at depth one before the closing brace is a mark. -/
theorem comma_mem_marks (hcl : ClosesAt ('{' :: rest) e pre) {X Y : List (Nat × Char)} {j : Nat}
    (hsteps : scanSteps ('{' :: rest) 0 = X ++ (j, ',') :: Y) (hX : braceDepth X = 1)
    (hj : j < e) : j ∈ depthOneCommas pre 0 := by
  obtain ⟨⟨post, hpre⟩, -, -⟩ := hcl
  obtain ⟨M, rfl⟩ := split_of_lt (scanSteps_pairwise _ 0) hsteps hpre hj
  exact mem_depthOneCommas.2 ⟨X, M, rfl, by omega⟩

end Marks

/-! ## The text of a group -/

theorem take_succ_eq_between {T : List Char} {a b : Nat} {c : Char} (hab : a < b)
    (hb : T[b]? = some c) : T.take (b + 1) = T.take (a + 1) ++ between T a b ++ [c] := by
  rw [List.take_add_one, hb, take_eq_append_between T hab]
  rfl

theorem consecutive_cons_cons (a b : Nat) (l : List Nat) :
    consecutive (a :: b :: l) = (a, b) :: consecutive (b :: l) := rfl

theorem length_consecutive : ∀ (a : Nat) (l : List Nat), (consecutive (a :: l)).length = l.length
  | _, [] => rfl
  | a, b :: l => by simp [consecutive_cons_cons, length_consecutive b l]

/-- Consecutive marks of a sorted list: both are marks, the first below the
    second, and no mark lies strictly between them. -/
theorem consecutive_sorted : ∀ {l : List Nat}, l.Pairwise (· < ·) → ∀ {a b : Nat},
    (a, b) ∈ consecutive l → a ∈ l ∧ b ∈ l ∧ a < b ∧ ∀ x ∈ l, x ≤ a ∨ b ≤ x
  | [], _, _, _, h => by simp [consecutive] at h
  | [_], _, _, _, h => by simp [consecutive] at h
  | x :: y :: l, hs, a, b, h => by
    rw [consecutive_cons_cons, List.mem_cons, Prod.mk.injEq] at h
    have hxy : x < y := List.rel_of_pairwise_cons hs (by simp)
    rcases h with ⟨rfl, rfl⟩ | h
    · -- the first pair: every later mark lies above `y`
      refine ⟨by simp, by simp, hxy, fun z hz => ?_⟩
      rcases List.mem_cons.1 hz with rfl | hz
      · exact .inl le_rfl
      · rcases List.mem_cons.1 hz with rfl | hz
        · exact .inr le_rfl
        · exact .inr (List.rel_of_pairwise_cons hs.of_cons hz).le
    · obtain ⟨ha, hb, hab, hnone⟩ := consecutive_sorted hs.of_cons h
      refine ⟨List.mem_cons_of_mem _ ha, List.mem_cons_of_mem _ hb, hab, fun z hz => ?_⟩
      rcases List.mem_cons.1 hz with rfl | hz
      · exact .inl (List.rel_of_pairwise_cons hs ha).le
      · exact hnone z hz

/-- The text up to the last of some sorted marks, the inner ones on commas:
    the text up to the first mark, then the texts between consecutive marks
    joined by commas, then the character at the last mark. -/
theorem take_eq_intercalate {T : List Char} {e : Nat} {c : Char} (he : T[e]? = some c) :
    ∀ {a : Nat} {mid : List Nat}, (a :: (mid ++ [e])).Pairwise (· < ·) →
      (∀ x ∈ mid, T[x]? = some ',') →
      T.take (e + 1) = T.take (a + 1) ++
        [','].intercalate ((consecutive (a :: (mid ++ [e]))).map fun p => between T p.1 p.2) ++
        [c]
  | a, [], hs, _ => by
    simp only [List.nil_append, consecutive_cons_cons, consecutive, List.map_cons, List.map_nil,
      List.intercalate_singleton]
    exact take_succ_eq_between (List.rel_of_pairwise_cons hs (by simp)) he
  | a, m :: mid, hs, hmid => by
    have ham : a < m := List.rel_of_pairwise_cons hs (by simp)
    have ih := take_eq_intercalate he hs.of_cons (fun x hx => hmid x (List.mem_cons_of_mem _ hx))
    have hne : (consecutive (m :: (mid ++ [e]))).map (fun p => between T p.1 p.2) ≠ [] := by
      cases mid <;> simp [consecutive_cons_cons]
    rw [List.cons_append, consecutive_cons_cons, List.map_cons,
      List.intercalate_cons_of_ne_nil hne, ih, take_succ_eq_between ham (hmid m (by simp))]
    simp only [List.append_assoc]

theorem getLastD_marks (mid : List Nat) (e : Nat) : (0 :: (mid ++ [e])).getLastD 0 = e := by
  rw [← List.cons_append, List.getLastD_eq_getLast?, List.getLast?_append]
  rfl

/-- The text of a group up to its closing brace is its alternatives joined
    by commas between braces. -/
theorem groupText_eq {rest : List Char} {marks : List Nat}
    (h : groupMarks ('{' :: rest) = some marks) :
    '{' :: [','].intercalate ((consecutive marks).map fun p => between ('{' :: rest) p.1 p.2) ++
      ['}'] = ('{' :: rest).take (marks.getLastD 0 + 1) := by
  obtain ⟨e, pre, hcl, -, rfl⟩ := groupMarks_eq_some_iff_closesAt.1 h
  obtain ⟨post, hpre⟩ := hcl.1
  have he : ('{' :: rest)[e]? = some '}' := getElem?_of_scanSteps_eq hpre
  have hmid : ∀ x ∈ depthOneCommas pre 0, ('{' :: rest)[x]? = some ',' := fun x hx => by
    obtain ⟨q, w, rfl, -⟩ := mem_depthOneCommas.1 hx
    exact getElem?_of_scanSteps_eq (P := q) (Q := w ++ (e, '}') :: post) (by simp [hpre])
  rw [getLastD_marks, take_eq_intercalate he (marks_pairwise hcl) hmid]
  simp

/-- No alternative of a group holds a comma at its own top level, which would
    be a mark between two consecutive marks, and none ends in a backslash that
    hides nothing, which would hide the mark after it. -/
theorem alternative_of_groupMarks {rest : List Char} {marks : List Nat} {a b : Nat}
    (h : groupMarks ('{' :: rest) = some marks) (hab : (a, b) ∈ consecutive marks) :
    ¬ReadsCommaAt (scanSteps (between ('{' :: rest) a b) 0) 0 ∧
      endsUnpaired (between ('{' :: rest) a b) = false := by
  obtain ⟨e, pre, hcl, -, rfl⟩ := groupMarks_eq_some_iff_closesAt.1 h
  obtain ⟨ha, hb, hlt, hnone⟩ := consecutive_sorted (marks_pairwise hcl) hab
  have hbe := le_of_mem_marks hcl hb
  have ha' : a ∈ 0 :: depthOneCommas pre 0 := by
    rw [← List.cons_append, List.mem_append, List.mem_singleton] at ha
    exact ha.resolve_right (by omega)
  obtain ⟨P, c, Q, hsa, hc, hdepth⟩ := step_of_open_mark hcl ha'
  obtain ⟨P₂, c₂, Q₂, hsb⟩ := step_of_mem_marks hcl hb
  obtain ⟨hend, R, hsteps⟩ := scan_between hsa hc hsb hlt
  refine ⟨?_, hend⟩
  -- a comma at depth zero of the alternative is one at depth one of the group
  rintro ⟨q, j, w, hA, hq⟩
  have hshift := scanSteps_shift (between ('{' :: rest) a b) 0 (a + 1)
  rw [Nat.zero_add, hA, List.map_append, List.map_cons] at hshift
  have hj : j < (between ('{' :: rest) a b).length :=
    (List.getElem?_eq_some_iff.1 (getElem?_of_scanSteps_eq hA)).1
  have hlen : (between ('{' :: rest) a b).length ≤ b - a - 1 := by
    simp [between]
  have hmem := comma_mem_marks hcl (X := P ++ (a, c) :: q.map fun s => (s.1 + (a + 1), s.2))
    (Y := w.map (fun s => (s.1 + (a + 1), s.2)) ++ R) (j := j + (a + 1))
    (by rw [hsteps, hshift]; simp) (by simp [hq]; omega) (by omega)
  rcases hnone (j + (a + 1)) (by simp [hmem]) with hle | hle <;> omega

/-! ## The group of a brace -/

/-- The brace scan. The group of a text that starts with `{` closes at `e`
    exactly when the scan, each backslash hiding the character after it,
    first brings the depth back to zero at `e` after reading a comma at depth
    one. The text then holds `}` at `e`, its part up to `e` is the
    alternatives joined by commas between braces, there are at least two
    alternatives, and none holds a comma at its own top level or ends in a
    backslash that hides nothing. -/
theorem matchBrace_scan (rest : List Char) :
    (∀ e, (∃ alts, matchBrace ('{' :: rest) = some (e, alts)) ↔
      ∃ pre, ClosesAt ('{' :: rest) e pre ∧ ReadsCommaAt pre 1) ∧
    ∀ e alts, matchBrace ('{' :: rest) = some (e, alts) →
      ('{' :: rest)[e]? = some '}' ∧
      '{' :: [','].intercalate alts ++ ['}'] = ('{' :: rest).take (e + 1) ∧
      2 ≤ alts.length ∧
      ∀ A ∈ alts, ¬ReadsCommaAt (scanSteps A 0) 0 ∧ endsUnpaired A = false := by
  constructor
  · intro e
    constructor
    · rintro ⟨alts, h⟩
      obtain ⟨marks, hm, rfl, -⟩ := matchBrace_eq_some.1 h
      obtain ⟨e', pre, hcl, hread, rfl⟩ := groupMarks_eq_some_iff_closesAt.1 hm
      rw [getLastD_marks]
      exact ⟨pre, hcl, hread⟩
    · rintro ⟨pre, hcl, hread⟩
      have hm := groupMarks_eq_some_iff_closesAt.2 ⟨e, pre, hcl, hread, rfl⟩
      exact ⟨_, matchBrace_eq_some.2 ⟨_, hm, getLastD_marks _ e, rfl⟩⟩
  · intro e alts h
    obtain ⟨marks, hm, rfl, rfl⟩ := matchBrace_eq_some.1 h
    obtain ⟨e', pre, hcl, hread, hmarks⟩ := groupMarks_eq_some_iff_closesAt.1 hm
    refine ⟨?_, groupText_eq hm, ?_, ?_⟩
    · obtain ⟨post, hpre⟩ := hcl.1
      rw [hmarks, getLastD_marks]
      exact getElem?_of_scanSteps_eq hpre
    · -- the comma read at depth one is a mark between the two braces
      have hD : depthOneCommas pre 0 ≠ [] := depthOneCommas_ne_nil_iff.2 (by simpa using hread)
      have := List.length_pos_of_ne_nil hD
      rw [List.length_map, hmarks, length_consecutive, List.length_append, List.length_singleton]
      omega
    · intro A hA
      obtain ⟨⟨a, b⟩, hab, rfl⟩ := List.mem_map.1 hA
      exact alternative_of_groupMarks hm hab

/-- `{a\,b,{c,d}}`: neither the escaped comma nor the comma of the inner group
    is a mark, so the group has the two alternatives `a\,b` and `{c,d}`. -/
theorem matchBrace_escaped_and_nested :
    matchBrace ['{', 'a', '\\', ',', 'b', ',', '{', 'c', ',', 'd', '}', '}'] =
        some (11, [['a', '\\', ',', 'b'], ['{', 'c', ',', 'd', '}']]) ∧
      ∀ A ∈ [['a', '\\', ',', 'b'], ['{', 'c', ',', 'd', '}']],
        ¬ReadsCommaAt (scanSteps A 0) 0 ∧ endsUnpaired A = false := by
  have h : matchBrace ['{', 'a', '\\', ',', 'b', ',', '{', 'c', ',', 'd', '}', '}'] =
      some (11, [['a', '\\', ',', 'b'], ['{', 'c', ',', 'd', '}']]) := by
    decide
  exact ⟨h, ((matchBrace_scan _).2 11 _ h).2.2.2⟩

end ChangeFilter.Glob
