import ChangeFilter.Proofs.Glob.Reading

/-! # Glob patterns: the language of a brace group

    A brace group `{A1,...,An}` matches what one of its alternatives
    matches. Each alternative is read on its own, with the segment edges seen
    around the braces, and equal alternatives are kept once; keeping one of
    them does not change the language, which is the union of the
    alternatives' languages. When a pattern with a group accepts what its
    expansions accept is the subject of `accepts_group_iff_expansion`.

    Main statements:
    * `altLang_keepFirst` — keeping the first of equal alternatives keeps the
      language of the group;
    * `mem_seqLang_brace` — the language of a group followed by its
      after-text;
    * `compile_isOk_iff` — a pattern compiles when its classes read. -/

namespace ChangeFilter.Glob

open Language

/-! ## Structural equality of pieces -/

mutual
theorem Piece.eq_of_beq : ∀ {p q : Piece}, Piece.beq p q = true → p = q
  | .lit _, q, h | .segmentRun, q, h | .segmentChar, q, h | .dirs, q, h | .subtree, q, h
  | .anything, q, h | .bracket _ _, q, h => by
    cases q <;> simp_all [Piece.beq]
  | .group as, q, h => by
    cases q with
    | group bs =>
      simp only [Piece.beq] at h
      rw [Piece.eq_of_beqAlts h]
    | _ => simp [Piece.beq] at h

theorem Piece.eq_of_beqSeq : ∀ {ps qs : List Piece}, Piece.beqSeq ps qs = true → ps = qs
  | [], [], _ => rfl
  | p :: ps, q :: qs, h => by
    simp only [Piece.beqSeq, Bool.and_eq_true] at h
    rw [Piece.eq_of_beq h.1, Piece.eq_of_beqSeq h.2]
  | [], _ :: _, h | _ :: _, [], h => by simp [Piece.beqSeq] at h

theorem Piece.eq_of_beqAlts : ∀ {as bs : List (List Piece)}, Piece.beqAlts as bs = true → as = bs
  | [], [], _ => rfl
  | a :: as, b :: bs, h => by
    simp only [Piece.beqAlts, Bool.and_eq_true] at h
    rw [Piece.eq_of_beqSeq h.1, Piece.eq_of_beqAlts h.2]
  | [], _ :: _, h | _ :: _, [], h => by simp [Piece.beqAlts] at h
end

mutual
theorem Piece.beq_self : ∀ p : Piece, Piece.beq p p = true
  | .group as => by simp only [Piece.beq]; exact Piece.beqAlts_self as
  | .lit _ | .segmentRun | .segmentChar | .dirs | .subtree | .anything | .bracket _ _ => by
    simp [Piece.beq]

theorem Piece.beqSeq_self : ∀ ps : List Piece, Piece.beqSeq ps ps = true
  | [] => rfl
  | p :: ps => by simp [Piece.beqSeq, Piece.beq_self p, Piece.beqSeq_self ps]

theorem Piece.beqAlts_self : ∀ as : List (List Piece), Piece.beqAlts as as = true
  | [] => rfl
  | a :: as => by simp [Piece.beqAlts, Piece.beqSeq_self a, Piece.beqAlts_self as]
end

/-- The structural equality of pieces is equality, so readings can be
    compared by evaluation. -/
instance : LawfulBEq Piece where
  eq_of_beq h := Piece.eq_of_beq h
  rfl := Piece.beq_self _

instance : DecidableEq Piece := instDecidableEqOfLawfulBEq

/-! ## Keeping the first of equal alternatives -/

theorem mem_keepFirst_go (x : List Piece) :
    ∀ (alts seen : List (List Piece)), x ∈ keepFirst.go alts seen ↔ x ∈ alts ∨ x ∈ seen
  | [], seen => by simp [keepFirst.go]
  | a :: rest, seen => by
    rw [keepFirst.go]
    split
    · next hseen =>
      -- `a` is dropped only when an equal alternative was already kept
      obtain ⟨b, hb, hab⟩ := List.any_eq_true.1 hseen
      have hba : a = b := Piece.eq_of_beqSeq hab
      rw [mem_keepFirst_go x rest seen, List.mem_cons]
      constructor
      · rintro (h | h) <;> simp [h]
      · rintro ((rfl | h) | h)
        · exact .inr (hba ▸ hb)
        · exact .inl h
        · exact .inr h
    · rw [mem_keepFirst_go x rest (a :: seen)]
      simp only [List.mem_cons]
      tauto

/-- Collapsing equal alternatives keeps every alternative. -/
theorem mem_keepFirst {x : List Piece} {alts : List (List Piece)} :
    x ∈ keepFirst alts ↔ x ∈ alts := by
  simp [keepFirst, mem_keepFirst_go]

/-! ## The language and the classes of a group -/

theorem mem_altLang {u : List Char} :
    ∀ {alts : List (List Piece)}, u ∈ Piece.altLang alts ↔ ∃ a ∈ alts, u ∈ Piece.seqLang a
  | [] => by simp [Piece.altLang]
  | a :: more => by
    simp only [Piece.altLang, Language.mem_add, List.mem_cons, exists_eq_or_imp]
    rw [mem_altLang]

theorem altLang_keepFirst (alts : List (List Piece)) :
    Piece.altLang (keepFirst alts) = Piece.altLang alts := by
  ext u
  simp only [mem_altLang, mem_keepFirst]

theorem firstBadAlt_eq_none_iff :
    ∀ {alts : List (List Piece)},
      firstBadClass.firstBadAlt alts = none ↔ ∀ a ∈ alts, firstBadClass a = none
  | [] => by simp [firstBadClass.firstBadAlt]
  | a :: more => by
    simp only [firstBadClass.firstBadAlt, List.mem_cons, forall_eq_or_imp]
    split
    · next h => simp [h]
    · next h => simp [h, firstBadAlt_eq_none_iff]

theorem firstBadClass_group (alts : List (List Piece)) (rest : List Piece) :
    firstBadClass (.group alts :: rest) = none ↔
      (∀ a ∈ alts, firstBadClass a = none) ∧ firstBadClass rest = none := by
  simp only [firstBadClass]
  split
  · next h =>
    have : firstBadClass.firstBadAlt alts ≠ none := by simp [h]
    simp only [reduceCtorEq, false_iff, not_and]
    exact fun hall => absurd (firstBadAlt_eq_none_iff.2 hall) this
  · next h => simp [← firstBadAlt_eq_none_iff, h]

/-! ## Reading a group -/

section Group

variable {rest S : List Char} {close : Nat} {alts : List (List Char)}

/-- A group followed by its after-text matches what one alternative,
    followed by the after-text, matches. -/
theorem mem_seqLang_brace (h : matchBrace ('{' :: rest) = some (close, alts))
    (hS : ('{' :: rest).drop (close + 1) = S) {a e : Bool} {u : List Char} :
    u ∈ Piece.seqLang (piecesOf ('{' :: rest) a e) ↔
      ∃ A ∈ alts, u ∈ Piece.seqLang (piecesOf A a (startsSegment S e) ++ piecesOf S false e) := by
  rw [piecesOf_matchBrace h, hS, seqLang_cons, lang_group, altLang_keepFirst, Language.mem_mul]
  constructor
  · rintro ⟨v, hv, w, hw, rfl⟩
    obtain ⟨_, hmap, hv⟩ := mem_altLang.1 hv
    obtain ⟨A, hA, rfl⟩ := List.mem_map.1 hmap
    exact ⟨A, hA, by rw [seqLang_append]; exact Language.append_mem_mul hv hw⟩
  · rintro ⟨A, hA, hu⟩
    rw [seqLang_append, Language.mem_mul] at hu
    obtain ⟨v, hv, w, hw, rfl⟩ := hu
    exact ⟨v, mem_altLang.2 ⟨_, List.mem_map_of_mem hA, hv⟩, w, hw, rfl⟩

theorem firstBadClass_brace (h : matchBrace ('{' :: rest) = some (close, alts))
    (hS : ('{' :: rest).drop (close + 1) = S) (a e : Bool) :
    firstBadClass (piecesOf ('{' :: rest) a e) = none ↔
      (∀ A ∈ alts, firstBadClass (piecesOf A a (startsSegment S e)) = none) ∧
        firstBadClass (piecesOf S false e) = none := by
  rw [piecesOf_matchBrace h, hS, firstBadClass_group]
  simp [mem_keepFirst]

end Group

/-! ## Compiling -/

theorem compile_isOk_iff {glob : String} (h : glob.toList.head? ≠ some '!') :
    (compile glob).isOk = true ↔ firstBadClass (piecesOf glob.toList true true) = none := by
  simp only [compile, splitNegation_of_head h]
  split <;> simp_all [Except.isOk, Except.toBool]

end ChangeFilter.Glob
