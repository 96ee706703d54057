import ChangeFilter.Proofs.Glob.Brace

/-! # Glob patterns: the law of a bracket class

    A class `[` m B `]` matches one character other than `/`: a member of
    its body B, or, when the mark m is `!` or `^`, a character that is no
    member. The reader takes mark and body as written when the body is not
    empty, has no `]` past its first character, and, with no mark, does not
    start with `!` or `^`.

    The members of a negated class are read from its body followed by `/`,
    so that `/` is never matched. A `-` that ends such a body is then no
    longer last, and it joins the `/` into a range: `[!+-]` reads the range
    from `+` to `/` and rejects `,` and `.`, and `[!a-]` reads the reversed
    range from `a` to `/` and does not compile. Where the class is not
    negated, or its body does not end in `-`, the class matches exactly what
    its body says, a `-` standing first or last being a member.

    Main statements:
    * `classSpan_of_classText` — how the reader takes a class text;
    * `bracket_class_law` — when a class compiles and what it accepts;
    * `negated_class_hyphen_meets_slash` — `[!+-]` rejects `,`, and `[!a-]`
      does not compile. -/

namespace ChangeFilter.Glob

open Language

/-! ## Class texts -/

/-- A bracket class as the reader takes it: a mark, `!`, `^` or none, then
    a body that is not empty and holds no `]` past its first character. With
    no mark, the body does not start with `!` or `^`, which would be read as
    the mark. -/
structure ClassText (mark body : List Char) : Prop where
  mark_ok : mark = [] ∨ mark = ['!'] ∨ mark = ['^']
  body_ne_nil : body ≠ []
  no_close : ']' ∉ body.tail
  unmarked : mark = [] → body.head? ≠ some '!' ∧ body.head? ≠ some '^'

/-- The glob `[`, mark, body, `]`. -/
def classGlob (mark body : List Char) : String :=
  String.ofList ('[' :: (mark ++ body ++ [']']))

section Reading

variable {m B : List Char}

theorem untilClose_append_close {X : List Char} (h : ']' ∉ X) (Y : List Char) :
    untilClose (X ++ ']' :: Y) = some (X, Y) := by
  induction X with
  | nil => simp [untilClose]
  | cons c X ih =>
    have hc : c ≠ ']' := fun hc => h (hc ▸ List.mem_cons_self)
    simp [untilClose, hc, ih (fun hm => h (List.mem_cons_of_mem c hm))]

/-- The mark is taken off, and only the mark. -/
theorem dropMark_classText (hC : ClassText m B) :
    dropMark (m ++ B ++ [']']) = (!m.isEmpty, B ++ [']']) := by
  rcases hC.mark_ok with rfl | rfl | rfl
  · -- no mark: the body's first character is none
    obtain ⟨b, B', rfl⟩ := List.exists_cons_of_ne_nil hC.body_ne_nil
    obtain ⟨h1, h2⟩ := hC.unmarked rfl
    simp only [List.head?_cons, ne_eq, Option.some.injEq] at h1 h2
    simp [dropMark, h1, h2]
  · simp [dropMark]
  · simp [dropMark]

/-- A class body with its closing `]`: a `]` standing first is split off as
    a member, and what is left holds no `]` before the closing one. -/
theorem dropLead_classText (hC : ClassText m B) :
    ∃ lead X, dropLead (B ++ [']']) = (lead, X ++ [']']) ∧ lead ++ X = B ∧ ']' ∉ X := by
  obtain ⟨b, B', rfl⟩ := List.exists_cons_of_ne_nil hC.body_ne_nil
  have hB' : ']' ∉ B' := by simpa using hC.no_close
  by_cases hb : b = ']'
  · -- a leading `]` is a member
    subst hb
    exact ⟨[']'], B', by simp [dropLead], rfl, hB'⟩
  · exact ⟨[], b :: B', by simp [dropLead, hb], rfl, by simp [Ne.symm hb, hB']⟩

/-- How the reader takes a class text: the mark says whether it is negated,
    the body is taken whole, and nothing is left after the `]`. -/
theorem classSpan_of_classText (hC : ClassText m B) :
    classSpan (m ++ B ++ [']']) = some (!m.isEmpty, B, []) := by
  obtain ⟨lead, X, hd, hB, hX⟩ := dropLead_classText hC
  have hmark := dropMark_classText hC
  subst hB
  unfold classSpan
  rw [hmark]
  dsimp only
  rw [hd]
  dsimp only
  rw [untilClose_append_close hX]
  rfl

theorem piecesOf_classGlob (hC : ClassText m B) (a e : Bool) :
    piecesOf (classGlob m B).toList a e = [.bracket (!m.isEmpty) B] := by
  rw [classGlob, String.toList_ofList, piecesOf_bracket (classSpan_of_classText hC), piecesOf.eq_1]

end Reading

/-! ## Reading the members -/

theorem getLast?_ne_of_cons {c x : Char} {l : List Char} (h : (c :: l).getLast? ≠ some x) :
    l.getLast? ≠ some x := by
  intro hl
  rw [List.getLast?_cons, hl] at h
  exact h rfl

theorem map_cons_map_append {ε α : Type} (r : Except ε (List α)) (x y : α) :
    (r.map (· ++ [y])).map (x :: ·) = (r.map (x :: ·)).map (· ++ [y]) := by
  cases r <;> rfl

/-- A `/` written after a body that does not end in `-` is one more member:
    it joins no range. -/
theorem readItems_append_slash {B : List Char} (h : B.getLast? ≠ some '-') :
    readItems (B ++ ['/']) = (readItems B).map (· ++ [ClassItem.single '/']) := by
  induction B using readItems.induct with
  | case1 => rfl
  | case2 c => simp at h
  | case3 c d rest hlt =>
    rw [List.cons_append, List.cons_append, List.cons_append, readItems.eq_3, readItems.eq_3,
      if_pos hlt, if_pos hlt]
    rfl
  | case4 c d rest hge ih =>
    rw [List.cons_append, List.cons_append, List.cons_append, readItems.eq_3, readItems.eq_3,
      if_neg hge, if_neg hge, ih (getLast?_ne_of_cons (getLast?_ne_of_cons (getLast?_ne_of_cons h))),
      map_cons_map_append]
  | case5 c rest h1 h2 ih =>
    -- the character stays a member on its own: what follows it is not `-`
    -- and another character, before the `/` as after it
    have h1' : rest ++ ['/'] ≠ ['-'] := by
      intro heq
      cases rest with
      | nil => simp at heq
      | cons x xs => simp at heq
    have h2' : ∀ d r, rest ++ ['/'] ≠ '-' :: d :: r := by
      intro d r heq
      rcases rest with _ | ⟨x, _ | ⟨y, ys⟩⟩
      · simp at heq
      · simp only [List.cons_append, List.nil_append, List.cons.injEq] at heq
        exact h1 (by rw [heq.1])
      · simp only [List.cons_append, List.cons.injEq] at heq
        exact h2 y ys (by rw [heq.1])
    rw [List.cons_append, readItems.eq_4 _ _ (fun heq => h1' heq) (fun d r heq => h2' d r heq),
      readItems.eq_4 _ _ (fun heq => h1 heq) (fun d r heq => h2 d r heq),
      ih (getLast?_ne_of_cons h), map_cons_map_append]

/-- With the class not negated, or a body that does not end in `-`, the
    members are those of the body, and `/` too when the class is negated. -/
theorem readClass_of_body {m B : List Char} {items : List ClassItem}
    (hend : m = [] ∨ B.getLast? ≠ some '-') (h : readItems B = .ok items) :
    readClass (!m.isEmpty) B = .ok (if m.isEmpty then items else items ++ [ClassItem.single '/']) := by
  unfold readClass
  by_cases hm : m = []
  · simp [hm, h]
  · have hend' : B.getLast? ≠ some '-' := hend.resolve_left hm
    have hne : m.isEmpty = false := by simpa using hm
    simp only [hne, Bool.not_false, if_true, Bool.false_eq_true, if_false]
    rw [readItems_append_slash hend', h]
    rfl

/-! ## What a class accepts -/

/-- A class whose members read admits a character other than `/` that is a
    member, or, when negated, no member. -/
theorem bracketAdmits_of_readClass {neg : Bool} {B : List Char} {items : List ClassItem}
    (h : readClass neg B = .ok items) (c : Char) :
    bracketAdmits neg B c = true ↔ c ≠ '/' ∧ items.any (·.admits c) ≠ neg := by
  simp [bracketAdmits, h]

theorem any_append_slash {items : List ClassItem} {c : Char} (hc : c ≠ '/') :
    (items ++ [ClassItem.single '/']).any (·.admits c) = items.any (·.admits c) := by
  simp [ClassItem.admits, hc]

theorem singleton_toList_eq {s : String} {c : Char} : [c] = s.toList ↔ s = String.singleton c := by
  rw [← String.toList_inj, String.toList_singleton, eq_comm]

section Law

variable {m B : List Char}

theorem head_classGlob_ne_bang (m B : List Char) : (classGlob m B).toList.head? ≠ some '!' := by
  simp [classGlob]

/-- A lone class holds no class that fails to read exactly when its members
    read. -/
theorem firstBadClass_bracket (neg : Bool) (B : List Char) :
    firstBadClass [.bracket neg B] = none ↔ (readClass neg B).isOk = true := by
  simp only [firstBadClass]
  split <;> simp_all [Except.isOk, Except.toBool]

theorem accepts_classGlob_iff (hC : ClassText m B) (s : String) :
    Accepts (classGlob m B) s ↔
      (readClass (!m.isEmpty) B).isOk = true ∧
        ∃ c, bracketAdmits (!m.isEmpty) B c = true ∧ s = String.singleton c := by
  rw [accepts_iff (head_classGlob_ne_bang m B), piecesOf_classGlob hC]
  simp only [seqLang_cons, seqLang_nil, mul_one, mem_lang_bracket, singleton_toList_eq]
  rw [firstBadClass_bracket]

theorem compile_classGlob_isOk (hC : ClassText m B) :
    (compile (classGlob m B)).isOk = true ↔ (readClass (!m.isEmpty) B).isOk = true := by
  rw [compile_isOk_iff (head_classGlob_ne_bang m B), piecesOf_classGlob hC, firstBadClass_bracket]

/-- What a class glob accepts, read off the members of its class: the
    one-character paths other than `/` whose membership differs from the
    negation. -/
theorem accepts_classGlob_of_readClass (hC : ClassText m B) {items : List ClassItem}
    (hread : readClass (!m.isEmpty) B = .ok items) (s : String) :
    Accepts (classGlob m B) s ↔
      ∃ c, s = String.singleton c ∧ c ≠ '/' ∧ items.any (·.admits c) ≠ !m.isEmpty := by
  rw [accepts_classGlob_iff hC, hread]
  simp only [Except.isOk, Except.toBool, true_and, bracketAdmits_of_readClass hread]
  constructor
  · rintro ⟨c, ⟨hc, hany⟩, rfl⟩
    exact ⟨c, rfl, hc, hany⟩
  · rintro ⟨c, rfl, hc, hany⟩
    exact ⟨c, ⟨hc, hany⟩, rfl⟩

/-- The class law. A class text compiles exactly when its members read, a
    negated body being read with a final `/`; it then accepts exactly the
    one-character paths other than `/` whose character is a member, or, when
    negated, no member. When the class is not negated, or its body does not
    end in `-`, the members are those of the body alone: the class compiles
    whenever every range of the body, read left to right with `-` literal
    first or last, is in order, and accepts a character other than `/`
    exactly when its membership in the body differs from the negation. -/
theorem bracket_class_law (m B : List Char) (hC : ClassText m B) :
    ((compile (classGlob m B)).isOk = true ↔ (readClass (!m.isEmpty) B).isOk = true) ∧
      (∀ items, readClass (!m.isEmpty) B = .ok items → ∀ s, Accepts (classGlob m B) s ↔
        ∃ c, s = String.singleton c ∧ c ≠ '/' ∧ items.any (·.admits c) ≠ !m.isEmpty) ∧
      ((m = [] ∨ B.getLast? ≠ some '-') → ∀ items, readItems B = .ok items →
        (compile (classGlob m B)).isOk = true ∧ ∀ s, Accepts (classGlob m B) s ↔
          ∃ c, s = String.singleton c ∧ c ≠ '/' ∧ items.any (·.admits c) ≠ !m.isEmpty) := by
  refine ⟨compile_classGlob_isOk hC, fun items hread => accepts_classGlob_of_readClass hC hread,
    fun hend items hitems => ?_⟩
  have hread := readClass_of_body hend hitems
  refine ⟨(compile_classGlob_isOk hC).2 (by rw [hread]; rfl), fun s => ?_⟩
  rw [accepts_classGlob_of_readClass hC hread s]
  -- the `/` a negated class adds to its members changes nothing for the
  -- characters it may accept
  refine exists_congr fun c => and_congr_right fun _ => and_congr_right fun hc => ?_
  split
  · rfl
  · rw [any_append_slash hc]

/-- A negated class whose body ends in `-`. Read alone, the body `+-` holds
    the members `+` and `-`, and a negated class of those would accept `,`;
    but the reader joins the `-` to the final `/` into the range from `+` to
    `/`, which holds `,`, so `[!+-]` rejects it. Likewise `[!a-]` reads the
    reversed range from `a` to `/` and does not compile. -/
theorem negated_class_hyphen_meets_slash :
    ClassText ['!'] ['+', '-'] ∧ readItems ['+', '-'] = .ok [.single '+', .single '-'] ∧
      ¬ Accepts (classGlob ['!'] ['+', '-']) "," ∧
      ClassText ['!'] ['a', '-'] ∧ readItems ['a', '-'] = .ok [.single 'a', .single '-'] ∧
      (compile (classGlob ['!'] ['a', '-'])).isOk = false := by
  have hplus : ClassText ['!'] ['+', '-'] := ⟨.inr (.inl rfl), by simp, by simp, by simp⟩
  have ha : ClassText ['!'] ['a', '-'] := ⟨.inr (.inl rfl), by simp, by simp, by simp⟩
  have hread : readClass (!(['!'] : List Char).isEmpty) ['+', '-'] = .ok [.range '+' '/'] := by
    decide
  refine ⟨hplus, rfl, ?_, ha, rfl, ?_⟩
  · rw [(bracket_class_law _ _ hplus).2.1 _ hread]
    rintro ⟨c, hs, -, hany⟩
    have hc : c = ',' := by
      have := congrArg String.toList hs
      simpa [eq_comm] using this
    subst hc
    exact hany (by decide)
  · have hbad : (readClass (!(['!'] : List Char).isEmpty) ['a', '-']).isOk = false := by decide
    rw [← Bool.not_eq_true, (bracket_class_law _ _ ha).1, hbad]
    simp

end Law

end ChangeFilter.Glob
