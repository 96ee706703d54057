import ChangeFilter.Glob.Match
import Mathlib

/-! # Glob patterns: the texts a compiled glob accepts

    Every piece of a compiled glob denotes a language, the texts it can
    consume. A sequence of pieces denotes the concatenation of its pieces'
    languages and a brace group the union of its alternatives' languages.

    The matcher works with remainders instead: `Piece.rests p s` lists what
    can be left of `s` once `p` has consumed a prefix of it. The two views
    agree, a remainder being exactly what a member of the language leaves
    behind (`mem_rests`), so a path is fully matched exactly when it belongs
    to the language of the pieces.

    Main statements:
    * `fullMatch_iff` — `fullMatch ps path` holds iff `path ∈ seqLang ps`;
    * `seqLang_append` — reading pieces one after the other concatenates;
    * `dirs_mul_dirs`, `subtree_mul_slash_mul_dirs` — globstars absorb each
      other around a `/`. -/

namespace ChangeFilter.Glob

open Language

/-! ## Languages of pieces -/

mutual
/-- The texts a piece consumes. -/
def Piece.lang : Piece → Language Char
  | .lit c => {[c]}
  | .segmentRun => {u | '/' ∉ u}
  | .segmentChar => {u | ∃ c, c ≠ '/' ∧ [c] = u}
  | .dirs => 1 + ⊤ * {['/']}
  | .subtree => 1 + {['/']} * ⊤
  | .anything => ⊤
  | .bracket negated body => {u | ∃ c, bracketAdmits negated body c = true ∧ [c] = u}
  | .group alternatives => Piece.altLang alternatives

/-- The texts a sequence of pieces consumes, one piece after the other. -/
def Piece.seqLang : List Piece → Language Char
  | [] => 1
  | p :: ps => p.lang * Piece.seqLang ps

/-- The texts that any one of the alternatives consumes. -/
def Piece.altLang : List (List Piece) → Language Char
  | [] => 0
  | a :: more => Piece.seqLang a + Piece.altLang more
end

/-! ### Membership, piece by piece -/

@[simp] theorem mem_singleton_lang {u v : List Char} : u ∈ ({v} : Language Char) ↔ u = v :=
  Iff.rfl

@[simp] theorem mem_top_lang (u : List Char) : u ∈ (⊤ : Language Char) :=
  trivial

@[simp] theorem lang_lit (c : Char) : (Piece.lit c).lang = {[c]} := by
  simp [Piece.lang]

@[simp] theorem lang_anything : Piece.anything.lang = ⊤ := by
  simp [Piece.lang]

@[simp] theorem mem_lang_segmentRun {u : List Char} : u ∈ Piece.segmentRun.lang ↔ '/' ∉ u :=
  Iff.rfl

@[simp] theorem mem_lang_segmentChar {u : List Char} :
    u ∈ Piece.segmentChar.lang ↔ ∃ c, c ≠ '/' ∧ [c] = u :=
  Iff.rfl

@[simp] theorem mem_lang_bracket {negated : Bool} {body u : List Char} :
    u ∈ (Piece.bracket negated body).lang ↔ ∃ c, bracketAdmits negated body c = true ∧ [c] = u :=
  Iff.rfl

theorem lang_group (alts : List (List Piece)) : (Piece.group alts).lang = Piece.altLang alts := by
  simp [Piece.lang]

@[simp] theorem seqLang_nil : Piece.seqLang [] = 1 := by
  simp [Piece.seqLang]

@[simp] theorem seqLang_cons (p : Piece) (ps : List Piece) :
    Piece.seqLang (p :: ps) = p.lang * Piece.seqLang ps := by
  simp [Piece.seqLang]

/-- Reading two piece sequences one after the other concatenates their
    languages. -/
theorem seqLang_append (ps qs : List Piece) :
    Piece.seqLang (ps ++ qs) = Piece.seqLang ps * Piece.seqLang qs := by
  induction ps with
  | nil => simp
  | cons p ps ih => simp [ih, mul_assoc]

/-- A `**/` consumes nothing, or a text that ends in `/`. -/
theorem mem_dirs {u : List Char} :
    u ∈ Piece.dirs.lang ↔ u = [] ∨ ∃ v, v ++ ['/'] = u := by
  show u ∈ 1 + ⊤ * {['/']} ↔ _
  simp [mem_add, mem_one, mem_mul]

/-- A trailing `/**` consumes nothing, or a text that starts with `/`. -/
theorem mem_subtree {u : List Char} :
    u ∈ Piece.subtree.lang ↔ u = [] ∨ ∃ v, '/' :: v = u := by
  show u ∈ 1 + {['/']} * ⊤ ↔ _
  simp [mem_add, mem_one, mem_mul]

/-! ## Remainders -/

theorem mem_oneRest {ok : Char → Bool} {s r : List Char} :
    r ∈ oneRest ok s ↔ ∃ c, ok c = true ∧ c :: r = s := by
  cases s with
  | nil => simp [oneRest]
  | cons c rest =>
    by_cases h : ok c = true
    · simp only [oneRest, h, if_true, List.mem_singleton, List.cons.injEq]
      constructor
      · rintro rfl
        exact ⟨c, h, rfl, rfl⟩
      · rintro ⟨_, _, rfl, rfl⟩
        rfl
    · simp only [oneRest, h, Bool.false_eq_true, if_false, List.not_mem_nil, false_iff]
      rintro ⟨d, hd, hs⟩
      simp only [List.cons.injEq] at hs
      exact h (hs.1 ▸ hd)

/-- What a run of characters other than `/` leaves. -/
theorem mem_segmentRests {s r : List Char} :
    r ∈ segmentRests s ↔ ∃ u, '/' ∉ u ∧ u ++ r = s := by
  induction s generalizing r with
  | nil => simp [segmentRests]
  | cons c rest ih =>
    by_cases hc : c = '/'
    · -- a `/` ends the run, so nothing of the text is consumed
      subst hc
      simp only [segmentRests, if_true, List.mem_singleton]
      constructor
      · rintro rfl
        exact ⟨[], by simp, rfl⟩
      · rintro ⟨_ | ⟨d, u⟩, hu, h⟩
        · simpa using h
        · simp only [List.cons_append, List.cons.injEq] at h
          simp [h.1] at hu
    · simp only [segmentRests, hc, if_false, List.mem_cons, ih]
      constructor
      · rintro (rfl | ⟨u, hu, rfl⟩)
        · exact ⟨[], by simp, rfl⟩
        · exact ⟨c :: u, by simp [Ne.symm hc, hu], rfl⟩
      · rintro ⟨_ | ⟨d, u⟩, hu, h⟩
        · exact .inl (by simpa using h)
        · simp only [List.cons_append, List.cons.injEq] at h
          exact .inr ⟨u, fun hm => hu (List.mem_cons_of_mem _ hm), h.2⟩

/-- What a text of any length leaves: every suffix. -/
theorem mem_suffixes {s r : List Char} : r ∈ suffixes s ↔ ∃ u, u ++ r = s := by
  induction s generalizing r with
  | nil => simp [suffixes]
  | cons c rest ih =>
    simp only [suffixes, List.mem_cons, ih]
    constructor
    · rintro (rfl | ⟨u, rfl⟩)
      · exact ⟨[], rfl⟩
      · exact ⟨c :: u, rfl⟩
    · rintro ⟨_ | ⟨d, u⟩, h⟩
      · exact .inl (by simpa using h)
      · simp only [List.cons_append, List.cons.injEq] at h
        exact .inr ⟨u, h.2⟩

theorem dirRests_eq_cons (s : List Char) : dirRests s = s :: (dirRests s).drop 1 := by
  cases s <;> simp [dirRests]

/-- Past its first entry, `dirRests` lists what remains after a prefix that
    ends in `/`. -/
theorem mem_drop_dirRests {s r : List Char} :
    r ∈ (dirRests s).drop 1 ↔ ∃ v, v ++ '/' :: r = s := by
  induction s generalizing r with
  | nil => simp [dirRests]
  | cons c rest ih =>
    have hrest : r ∈ dirRests rest ↔ r = rest ∨ ∃ v, v ++ '/' :: r = rest := by
      rw [dirRests_eq_cons rest, List.mem_cons, ih]
    -- the prefix is empty up to this `/`, or it runs on into `rest`
    have hsplit : (∃ v, v ++ '/' :: r = c :: rest) ↔
        (c = '/' ∧ r = rest) ∨ ∃ v, v ++ '/' :: r = rest := by
      constructor
      · rintro ⟨_ | ⟨d, v⟩, h⟩
        · simp only [List.nil_append, List.cons.injEq] at h
          exact .inl ⟨h.1.symm, h.2⟩
        · simp only [List.cons_append, List.cons.injEq] at h
          exact .inr ⟨v, h.2⟩
      · rintro (⟨rfl, rfl⟩ | ⟨v, rfl⟩)
        · exact ⟨[], rfl⟩
        · exact ⟨c :: v, rfl⟩
    have htail : (dirRests (c :: rest)).drop 1 =
        if c = '/' then dirRests rest else (dirRests rest).drop 1 := by
      simp [dirRests]
    rw [hsplit, htail]
    by_cases hc : c = '/'
    · rw [if_pos hc, hrest]
      simp [hc]
    · rw [if_neg hc, ih]
      simp [hc]

/-- What a `**/` leaves: the text itself, or what follows a `/`. -/
theorem mem_dirRests {s r : List Char} :
    r ∈ dirRests s ↔ ∃ u ∈ Piece.dirs.lang, u ++ r = s := by
  rw [dirRests_eq_cons s, List.mem_cons, mem_drop_dirRests]
  constructor
  · rintro (rfl | ⟨v, rfl⟩)
    · exact ⟨[], mem_dirs.2 (.inl rfl), rfl⟩
    · exact ⟨v ++ ['/'], mem_dirs.2 (.inr ⟨v, rfl⟩), by simp⟩
  · rintro ⟨u, hu, rfl⟩
    rcases mem_dirs.1 hu with rfl | ⟨v, rfl⟩
    · exact .inl rfl
    · exact .inr ⟨v, by simp⟩

/-- What a trailing `/**` leaves: the text itself, or, after a `/`, any
    suffix. -/
theorem mem_subtreeRests {s r : List Char} :
    r ∈ Piece.subtree.rests s ↔ ∃ u ∈ Piece.subtree.lang, u ++ r = s := by
  simp only [mem_subtree]
  -- the piece looks at whether the text starts with `/`
  have hrests : Piece.subtree.rests s =
      if s.head? = some '/' then s :: suffixes s.tail else [s] := by
    match s with
    | '/' :: rest => simp [Piece.rests]
    | [] => simp [Piece.rests]
    | c :: rest =>
      by_cases hc : c = '/'
      · subst hc; simp [Piece.rests]
      · simp [Piece.rests, hc]
  rw [hrests]
  constructor
  · intro h
    split at h
    · next hs =>
      obtain ⟨rest, rfl⟩ : ∃ rest, s = '/' :: rest := by
        cases s with
        | nil => simp at hs
        | cons c rest => simp at hs; exact ⟨rest, by rw [hs]⟩
      simp only [List.mem_cons, mem_suffixes, List.tail_cons] at h
      rcases h with rfl | ⟨u, rfl⟩
      · exact ⟨[], .inl rfl, rfl⟩
      · exact ⟨'/' :: u, .inr ⟨u, rfl⟩, rfl⟩
    · simp only [List.mem_singleton] at h
      exact ⟨[], .inl rfl, h ▸ rfl⟩
  · rintro ⟨u, hu, rfl⟩
    rcases hu with rfl | ⟨v, rfl⟩
    · split <;> simp
    · simp [mem_suffixes]

mutual
/-- A remainder of a piece is exactly what a consumed member leaves. -/
theorem mem_rests (p : Piece) (s r : List Char) :
    r ∈ p.rests s ↔ ∃ u ∈ p.lang, u ++ r = s := by
  cases p with
  | lit c => simp [Piece.rests, mem_oneRest]
  | segmentRun => simp [Piece.rests, mem_segmentRests]
  | segmentChar => simp [Piece.rests, mem_oneRest]
  | dirs => simp [Piece.rests, mem_dirRests]
  | subtree => exact mem_subtreeRests
  | anything => simp [Piece.rests, mem_suffixes]
  | bracket negated body => simp [Piece.rests, mem_oneRest]
  | group alts =>
    rw [Piece.rests, lang_group]
    exact mem_altRests alts s r

/-- The remainders after a sequence are what a member of its language leaves
    of one of the starting texts. -/
theorem mem_seqRests (ps : List Piece) (ss : List (List Char)) (r : List Char) :
    r ∈ Piece.seqRests ps ss ↔ ∃ s ∈ ss, ∃ u ∈ Piece.seqLang ps, u ++ r = s := by
  cases ps with
  | nil => simp [Piece.seqRests, mem_one]
  | cons p ps =>
    rw [Piece.seqRests, mem_seqRests ps]
    simp only [List.mem_eraseDups, List.mem_flatMap, mem_rests p, seqLang_cons, mem_mul]
    constructor
    · rintro ⟨s', ⟨s, hs, v, hv, rfl⟩, w, hw, rfl⟩
      exact ⟨_, hs, v ++ w, ⟨v, hv, w, hw, rfl⟩, by simp⟩
    · rintro ⟨s, hs, _, ⟨v, hv, w, hw, rfl⟩, rfl⟩
      exact ⟨w ++ r, ⟨_, hs, v, hv, by simp⟩, w, hw, rfl⟩

/-- The remainders after a group are those of any one alternative. -/
theorem mem_altRests (alts : List (List Piece)) (s r : List Char) :
    r ∈ Piece.altRests alts s ↔ ∃ u ∈ Piece.altLang alts, u ++ r = s := by
  cases alts with
  | nil => simp [Piece.altRests, Piece.altLang, notMem_zero]
  | cons a more =>
    rw [Piece.altRests, List.mem_append, mem_seqRests a, mem_altRests more]
    simp only [List.mem_singleton, exists_eq_left, Piece.altLang, mem_add]
    constructor
    · rintro (⟨u, hu, h⟩ | ⟨u, hu, h⟩)
      · exact ⟨u, .inl hu, h⟩
      · exact ⟨u, .inr hu, h⟩
    · rintro ⟨u, hu | hu, h⟩
      · exact .inl ⟨u, hu, h⟩
      · exact .inr ⟨u, hu, h⟩
end

/-- The matcher decides membership in the language of the pieces. -/
theorem fullMatch_iff {ps : List Piece} {path : List Char} :
    fullMatch ps path = true ↔ path ∈ Piece.seqLang ps := by
  simp only [fullMatch, List.any_eq_true, List.isEmpty_iff, mem_seqRests,
    List.mem_singleton]
  constructor
  · rintro ⟨_, ⟨_, rfl, u, hu, rfl⟩, rfl⟩
    simpa using hu
  · intro h
    exact ⟨[], ⟨path, rfl, path, h, by simp⟩, rfl⟩

/-! ## Globstars absorbing each other -/

theorem nil_mem_dirs : [] ∈ Piece.dirs.lang := mem_dirs.2 (.inl rfl)

theorem nil_mem_subtree : [] ∈ Piece.subtree.lang := mem_subtree.2 (.inl rfl)

/-- Any number of directories followed by any text is any text. -/
theorem dirs_mul_top : Piece.dirs.lang * ⊤ = ⊤ := by
  ext u
  simp only [mem_top_lang, iff_true, mem_mul]
  exact ⟨[], nil_mem_dirs, u, mem_top_lang u, rfl⟩

/-- Any text, then optionally `/` and more text, is any text. -/
theorem top_mul_subtree : ⊤ * Piece.subtree.lang = ⊤ := by
  ext u
  simp only [mem_top_lang, iff_true, mem_mul]
  exact ⟨u, mem_top_lang u, [], nil_mem_subtree, by simp⟩

/-- Two runs of directories are one run. -/
theorem dirs_mul_dirs : Piece.dirs.lang * Piece.dirs.lang = Piece.dirs.lang := by
  ext u
  rw [mem_mul]
  constructor
  · rintro ⟨a, ha, b, hb, rfl⟩
    rcases mem_dirs.1 hb with rfl | ⟨v, rfl⟩
    · simpa using ha
    · exact mem_dirs.2 (.inr ⟨a ++ v, by simp⟩)
  · intro hu
    exact ⟨u, hu, [], nil_mem_dirs, by simp⟩

/-- A trailing `/**` followed by `/**/` adds nothing to the `/**/`: the text
    it consumes is itself a run of directories. -/
theorem subtree_mul_slash_mul_dirs :
    Piece.subtree.lang * ({['/']} * Piece.dirs.lang) = {['/']} * Piece.dirs.lang := by
  ext u
  constructor
  · rintro ⟨a, ha, w, ⟨_, rfl, d, hd, rfl⟩, rfl⟩
    rcases mem_subtree.1 ha with rfl | ⟨v, rfl⟩
    · exact ⟨['/'], rfl, d, hd, rfl⟩
    · have hvd : (v ++ ['/']) ++ d ∈ Piece.dirs.lang := by
        rw [← dirs_mul_dirs]
        exact append_mem_mul (mem_dirs.2 (.inr ⟨v, rfl⟩)) hd
      exact ⟨['/'], rfl, v ++ ['/'] ++ d, hvd, by simp⟩
  · intro hu
    exact ⟨[], nil_mem_subtree, u, hu, rfl⟩

end ChangeFilter.Glob
