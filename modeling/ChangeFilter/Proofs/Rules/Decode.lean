import ChangeFilter.Proofs.Rules.Meaning

/-! # Rule items: the grammar `decode` accepts

    A rule node of a filter document is one of

    * a pattern: non-empty text without NUL;
    * a sequence of rule nodes, nested to any depth, as long as no sequence
      holds itself;
    * a mapping whose keys are status specs, text whose `|`-separated tokens,
      trimmed and lower-cased, are each empty or a status name, and whose
      values are patterns or sequences of patterns.

    `Decodes` is that grammar together with the rule each node stands for,
    and `Offence` names the error of the first node, in a depth-first walk
    from the left, that breaks it; within a mapping entry the shape of key and
    value comes first, then the status tokens, then the patterns. Reading a
    node succeeds exactly on the grammar and otherwise fails with that error.

    A status spec may be empty text: its single token is empty, so it allows
    every status, just as a spec made only of `|` and blanks does.

    Main statements:
    * `decodeCell_sound`, `decodeCell_complete` — reading a cell succeeds
      exactly on the grammar, with the rule it stands for;
    * `decodeCell_error` — a failed read reports the first offence;
    * `decode_grammar` — both, for a node of a whole document;
    * `empty_status_key_decodes` — an empty status spec key is accepted. -/

namespace ChangeFilter.Rules

/-! ## Patterns and status specs -/

/-- A pattern node's text is accepted: it is not empty and holds no NUL. -/
def PatternOk (s : String) : Prop :=
  s ≠ "" ∧ '\x00' ∉ s.toList

/-- The error a pattern text is refused with: empty text, then a NUL. -/
def PatternFault (s : String) (e : FormatError) : Prop :=
  (s = "" ∧ e = .emptyPattern) ∨ (s ≠ "" ∧ '\x00' ∈ s.toList ∧ e = .nulInPattern s)

/-- The trimmed, lower-cased tokens of a status spec. -/
def statusTokens (spec : String) : List String :=
  (spec.splitOn "|").map fun t => Text.lower (Text.trimBlank t)

/-- A token of a status spec is empty or names a status. -/
def TokenOk (tok : String) : Prop :=
  tok = "" ∨ ∃ st, Status.ofName? tok = some st

/-- Every token of a status spec is empty or names a status. -/
def SpecOk (spec : String) : Prop :=
  ∀ tok ∈ statusTokens spec, TokenOk tok

/-- The statuses a spec names, as a set. -/
def specStatuses (spec : String) : List Status :=
  Status.setOf ((statusTokens spec).filterMap Status.ofName?)

/-- The error a status spec is refused with: its first token that is neither
    empty nor a status name. -/
def SpecFault (spec : String) (e : FormatError) : Prop :=
  ∃ pre tok post, statusTokens spec = pre ++ tok :: post ∧ (∀ t ∈ pre, TokenOk t) ∧
    ¬ TokenOk tok ∧ e = .unknownStatus tok

theorem checkPattern_str (s : String) : checkPattern (.str s) =
    if s.isEmpty then .error .emptyPattern
    else if s.toList.contains '\x00' then .error (.nulInPattern s) else .ok s := rfl

theorem checkPattern_eq_ok {s p : String} :
    checkPattern (.str s) = .ok p ↔ PatternOk s ∧ p = s := by
  rw [checkPattern_str]
  unfold PatternOk
  by_cases he : s = ""
  · have h1 : s.isEmpty = true := by simpa [String.isEmpty_iff] using he
    rw [if_pos h1]
    simp [he]
  · have h1 : s.isEmpty = false := by simpa [String.isEmpty_iff] using he
    rw [if_neg (by simp [h1])]
    by_cases hn : '\x00' ∈ s.toList
    · rw [if_pos (List.contains_iff_mem.2 hn)]
      simp [hn]
    · rw [if_neg (by simpa using hn)]
      simp only [Except.ok.injEq]
      exact ⟨fun h => ⟨⟨he, hn⟩, h.symm⟩, fun h => h.2.symm⟩

theorem checkPattern_eq_error {s : String} {e : FormatError} :
    checkPattern (.str s) = .error e ↔ PatternFault s e := by
  rw [checkPattern_str]
  unfold PatternFault
  by_cases he : s = ""
  · have h1 : s.isEmpty = true := by simpa [String.isEmpty_iff] using he
    rw [if_pos h1]
    simp [he, eq_comm]
  · have h1 : s.isEmpty = false := by simpa [String.isEmpty_iff] using he
    rw [if_neg (by simp [h1])]
    by_cases hn : '\x00' ∈ s.toList
    · rw [if_pos (List.contains_iff_mem.2 hn)]
      simp [he, hn, eq_comm]
    · rw [if_neg (by simpa using hn)]
      simp [he, hn]

theorem ofName?_empty : Status.ofName? "" = none := by
  decide

theorem statusOfToken_eq_ok {t : String} {st : Status} :
    statusOfToken t = .ok st ↔ Status.ofName? t = some st := by
  unfold statusOfToken
  cases Status.ofName? t <;> simp

/-- Reading the non-empty tokens of a spec succeeds exactly when each token
    is empty or a status name, with the statuses they name in order. -/
theorem mapM_statusOfToken_eq_ok {sts : List Status} :
    ∀ {toks : List String}, (toks.filter (!·.isEmpty)).mapM statusOfToken = .ok sts ↔
      (∀ t ∈ toks, TokenOk t) ∧ sts = toks.filterMap Status.ofName?
  | [] => by simp [pure, Except.pure, eq_comm]
  | t :: rest => by
    by_cases ht : t = ""
    · -- an empty token is dropped, and names no status
      subst ht
      simp [mapM_statusOfToken_eq_ok, TokenOk, ofName?_empty]
    · have hne : (!t.isEmpty) = true := by simpa [String.isEmpty_iff] using ht
      rw [List.filter_cons, if_pos hne, List.mapM_cons, bind_eq_ok]
      cases hs : Status.ofName? t with
      | none =>
        have : ¬ TokenOk t := by simp [TokenOk, ht, hs]
        simp [statusOfToken, hs, this]
      | some st =>
        simp only [statusOfToken, hs, bind_eq_ok, mapM_statusOfToken_eq_ok, pure, Except.pure,
          Except.ok.injEq, List.mem_cons, forall_eq_or_imp, List.filterMap_cons]
        constructor
        · rintro ⟨_, rfl, sts', ⟨hall, rfl⟩, rfl⟩
          exact ⟨⟨.inr ⟨st, hs⟩, hall⟩, rfl⟩
        · rintro ⟨⟨-, hall⟩, rfl⟩
          exact ⟨st, rfl, _, ⟨hall, rfl⟩, rfl⟩

/-- Empty text is a status spec of one empty token. -/
theorem statusTokens_empty : statusTokens "" = [""] := by
  unfold statusTokens String.splitOn
  rw [String.splitOnAux]
  simp [String.Pos.Raw.atEnd, String.Pos.Raw.extract]
  decide

/-- The empty status spec is accepted, and allows every status. -/
theorem specOk_empty : SpecOk "" ∧ specStatuses "" = [] := by
  refine ⟨?_, ?_⟩
  · intro tok htok
    rw [statusTokens_empty, List.mem_singleton] at htok
    exact .inl htok
  · unfold specStatuses
    rw [statusTokens_empty]
    decide

theorem parseStatusSpec_eq_ok {spec : String} {sts : List Status} :
    parseStatusSpec spec = .ok sts ↔ SpecOk spec ∧ sts = specStatuses spec := by
  unfold parseStatusSpec SpecOk specStatuses
  rw [bind_eq_ok]
  simp only [pure, Except.pure, Except.ok.injEq]
  constructor
  · rintro ⟨sts', hm, rfl⟩
    obtain ⟨hall, rfl⟩ := mapM_statusOfToken_eq_ok.1 hm
    exact ⟨hall, rfl⟩
  · rintro ⟨hall, rfl⟩
    exact ⟨_, mapM_statusOfToken_eq_ok.2 ⟨hall, rfl⟩, rfl⟩

/-- Reading the non-empty tokens of a spec fails at its first token that is
    neither empty nor a status name. -/
theorem mapM_statusOfToken_eq_error {e : FormatError} :
    ∀ {toks : List String}, (toks.filter (!·.isEmpty)).mapM statusOfToken = .error e →
      ∃ pre tok post, toks = pre ++ tok :: post ∧ (∀ t ∈ pre, TokenOk t) ∧ ¬ TokenOk tok ∧
        e = .unknownStatus tok
  | [], h => by simp [pure, Except.pure] at h
  | t :: rest, h => by
    by_cases ht : t = ""
    · -- an empty token is dropped, so the failure lies further on
      subst ht
      have hdrop : (!("" : String).isEmpty) = false := by simp [String.isEmpty_iff]
      rw [List.filter_cons, if_neg (by simp [hdrop])] at h
      obtain ⟨pre, tok, post, rfl, hpre, htok, he⟩ := mapM_statusOfToken_eq_error h
      refine ⟨"" :: pre, tok, post, rfl, ?_, htok, he⟩
      rintro t (_ | ⟨_, ht'⟩)
      · exact .inl rfl
      · exact hpre t ht'
    · have hne : (!t.isEmpty) = true := by simpa [String.isEmpty_iff] using ht
      rw [List.filter_cons, if_pos hne, List.mapM_cons, bind_eq_error] at h
      cases hs : Status.ofName? t with
      | none =>
        have htok : ¬ TokenOk t := by simp [TokenOk, ht, hs]
        simp only [statusOfToken, hs, Except.error.injEq, reduceCtorEq, false_and, exists_false,
          or_false] at h
        exact ⟨[], t, rest, rfl, by simp, htok, h.symm⟩
      | some st =>
        simp only [statusOfToken, hs, reduceCtorEq, false_or, Except.ok.injEq, exists_eq_left',
          bind_eq_error, pure, Except.pure, and_false, exists_false, or_false] at h
        obtain ⟨pre, tok, post, rfl, hpre, htok, he⟩ := mapM_statusOfToken_eq_error h
        refine ⟨t :: pre, tok, post, rfl, ?_, htok, he⟩
        rintro t' (_ | ⟨_, ht'⟩)
        · exact .inr ⟨st, hs⟩
        · exact hpre t' ht'

theorem parseStatusSpec_eq_error {spec : String} {e : FormatError}
    (h : parseStatusSpec spec = .error e) : SpecFault spec e := by
  unfold parseStatusSpec at h
  rw [bind_eq_error] at h
  rcases h with hm | ⟨_, -, hpure⟩
  · exact mapM_statusOfToken_eq_error hm
  · simp [pure, Except.pure] at hpure

/-! ## The grammar of rule nodes -/

/-- A mapping entry of a status spec and patterns, and the rule it stands for. -/
inductive EntryDecodes (doc : Graph) : Value × Nat → Item → Prop
  /-- A spec with one pattern. -/
  | text {spec : String} {m : Nat} {p : String} :
      doc.cell m = .scalar (.str p) → SpecOk spec → PatternOk p →
      EntryDecodes doc (.str spec, m) (.statusPatterns (specStatuses spec) [p])
  /-- A spec with a sequence of patterns. -/
  | list {spec : String} {m : Nat} {ms : List Nat} {ps : List String} :
      doc.cell m = .seq ms → SpecOk spec →
      List.Forall₂ (fun m' p => doc.cell m' = .scalar (.str p) ∧ PatternOk p) ms ps →
      EntryDecodes doc (.str spec, m) (.statusPatterns (specStatuses spec) ps)

mutual
/-- A rule node met below the open sequences `opn`, and the rule it stands
    for: a pattern, a sequence that is not open, or a mapping of status specs
    to patterns. -/
inductive Decodes (doc : Graph) : List Nat → Nat → Item → Prop
  | pattern {opn : List Nat} {n : Nat} {s : String} :
      doc.cell n = .scalar (.str s) → PatternOk s → Decodes doc opn n (.pattern s)
  | seq {opn : List Nat} {n : Nat} {items : List Nat} {its : List Item} :
      doc.cell n = .seq items → n ∉ opn → DecodesAll doc (n :: opn) items its →
      Decodes doc opn n (.group its)
  | map {opn : List Nat} {n : Nat} {entries : List (Value × Nat)} {its : List Item} :
      doc.cell n = .map entries → List.Forall₂ (EntryDecodes doc) entries its →
      Decodes doc opn n (.group its)

/-- Rule nodes in order, each with the rule it stands for. -/
inductive DecodesAll (doc : Graph) : List Nat → List Nat → List Item → Prop
  | nil {opn : List Nat} : DecodesAll doc opn [] []
  | cons {opn : List Nat} {m : Nat} {ms : List Nat} {it : Item} {its : List Item} :
      Decodes doc opn m it → DecodesAll doc opn ms its → DecodesAll doc opn (m :: ms) (it :: its)
end

/-! ## The first offence -/

/-- The error a pattern cell of a sequence is refused with. -/
inductive PatternCellFault (doc : Graph) : Nat → FormatError → Prop
  | text {m : Nat} {s : String} {e : FormatError} :
      doc.cell m = .scalar (.str s) → PatternFault s e → PatternCellFault doc m e
  | notText {m : Nat} :
      (∀ s, doc.cell m ≠ .scalar (.str s)) → PatternCellFault doc m (.patternNotText (doc.view m))

/-- A mapping entry has the shape of status patterns: a text key, and text or
    a sequence as its value. -/
def EntryShaped (doc : Graph) (k : Value) (m : Nat) : Prop :=
  (∃ spec, k = .str spec) ∧ ((∃ p, doc.cell m = .scalar (.str p)) ∨ ∃ ms, doc.cell m = .seq ms)

/-- The error a mapping entry is refused with: its shape first, then its
    status tokens, then its patterns in order. -/
inductive EntryFault (doc : Graph) : Value → Nat → FormatError → Prop
  | shape {k : Value} {m : Nat} :
      ¬ EntryShaped doc k m → EntryFault doc k m (.badStatusEntry k (doc.view m))
  | spec {spec : String} {m : Nat} {e : FormatError} :
      EntryShaped doc (.str spec) m → SpecFault spec e → EntryFault doc (.str spec) m e
  | text {spec : String} {m : Nat} {p : String} {e : FormatError} :
      doc.cell m = .scalar (.str p) → SpecOk spec → PatternFault p e →
      EntryFault doc (.str spec) m e
  | list {spec : String} {m : Nat} {ms pre post : List Nat} {m' : Nat} {e : FormatError} :
      doc.cell m = .seq ms → SpecOk spec → ms = pre ++ m' :: post →
      (∀ m'' ∈ pre, ∃ p, doc.cell m'' = .scalar (.str p) ∧ PatternOk p) →
      PatternCellFault doc m' e → EntryFault doc (.str spec) m e

/-- The error reading a rule node fails with: that of its first offending
    node, depth first from the left. A sequence met again while it is open
    never ends. -/
inductive Offence (doc : Graph) : List Nat → Nat → LoadError → Prop
  | pattern {opn : List Nat} {n : Nat} {s : String} {e : FormatError} :
      doc.cell n = .scalar (.str s) → PatternFault s e → Offence doc opn n (.format e)
  | unexpected {opn : List Nat} {n : Nat} :
      (∀ s, doc.cell n ≠ .scalar (.str s)) → (∀ items, doc.cell n ≠ .seq items) →
      (∀ entries, doc.cell n ≠ .map entries) →
      Offence doc opn n (.format (.unexpectedElement (doc.view n)))
  | endless {opn : List Nat} {n : Nat} {items : List Nat} :
      doc.cell n = .seq items → n ∈ opn → Offence doc opn n (.fault Fault.endless)
  | seq {opn : List Nat} {n : Nat} {items pre post : List Nat} {m : Nat} {err : LoadError} :
      doc.cell n = .seq items → n ∉ opn → items = pre ++ m :: post →
      (∀ m' ∈ pre, ∃ it, Decodes doc (n :: opn) m' it) → Offence doc (n :: opn) m err →
      Offence doc opn n err
  | map {opn : List Nat} {n : Nat} {entries pre post : List (Value × Nat)} {k : Value} {m : Nat}
      {e : FormatError} :
      doc.cell n = .map entries → entries = pre ++ (k, m) :: post →
      (∀ en ∈ pre, ∃ it, EntryDecodes doc en it) → EntryFault doc k m e →
      Offence doc opn n (.format e)

/-! ## Reading patterns and entries -/

section Entries

variable {doc : Graph}

theorem patternCell_eq_ok {m : Nat} {p : String} :
    patternCell doc m = .ok p ↔ doc.cell m = .scalar (.str p) ∧ PatternOk p := by
  unfold patternCell
  split
  · next s hc =>
    rw [checkPattern_eq_ok, hc]
    constructor
    · rintro ⟨hs, rfl⟩
      exact ⟨rfl, hs⟩
    · rintro ⟨hcell, hs⟩
      cases hcell
      exact ⟨hs, rfl⟩
  · next hc =>
    simp only [reduceCtorEq, false_iff, not_and]
    exact fun hcell => absurd hcell (hc p)

theorem patternCell_eq_error {m : Nat} {e : FormatError} (h : patternCell doc m = .error e) :
    PatternCellFault doc m e := by
  unfold patternCell at h
  split at h
  · next s hc => exact .text hc (checkPattern_eq_error.1 h)
  · next hc =>
    cases h
    exact .notText hc

/-- An entry reads into a rule exactly when it is a status spec with its
    patterns. -/
theorem decodeEntry_eq_ok {k : Value} {m : Nat} {it : Item} :
    decodeEntry doc k m = .ok it ↔ EntryDecodes doc (k, m) it := by
  unfold decodeEntry
  split
  · next spec p hc =>
    simp only [bind_eq_ok, parseStatusSpec_eq_ok, checkPattern_eq_ok, pure, Except.pure,
      Except.ok.injEq]
    constructor
    · rintro ⟨_, ⟨hspec, rfl⟩, _, ⟨hp, rfl⟩, rfl⟩
      exact .text hc hspec hp
    · intro h
      cases h with
      | text hc' hspec hp =>
        rw [hc] at hc'
        cases hc'
        exact ⟨_, ⟨hspec, rfl⟩, _, ⟨hp, rfl⟩, rfl⟩
      | list hc' => rw [hc] at hc'; cases hc'
  · next spec items hc =>
    simp only [bind_eq_ok, parseStatusSpec_eq_ok, mapM_eq_ok, pure, Except.pure, Except.ok.injEq]
    constructor
    · rintro ⟨_, ⟨hspec, rfl⟩, ps, hps, rfl⟩
      exact .list hc hspec (hps.imp fun m' p hp => patternCell_eq_ok.1 hp)
    · intro h
      cases h with
      | text hc' => rw [hc] at hc'; cases hc'
      | list hc' hspec hps =>
        rw [hc] at hc'
        cases hc'
        exact ⟨_, ⟨hspec, rfl⟩, _, hps.imp fun m' p hp => patternCell_eq_ok.2 hp, rfl⟩
  · next h1 h2 =>
    simp only [reduceCtorEq, false_iff]
    intro h
    cases h with
    | text hc => exact h1 _ _ rfl hc
    | list hc => exact h2 _ _ rfl hc

/-- A refused entry reports its shape, then its first bad status token, then
    its first bad pattern. -/
theorem decodeEntry_eq_error {k : Value} {m : Nat} {e : FormatError}
    (h : decodeEntry doc k m = .error e) : EntryFault doc k m e := by
  unfold decodeEntry at h
  split at h
  · next spec p hc =>
    have hshape : EntryShaped doc (.str spec) m := ⟨⟨spec, rfl⟩, .inl ⟨p, hc⟩⟩
    rw [bind_eq_error] at h
    rcases h with hspec | ⟨sts, hsts, h⟩
    · exact .spec hshape (parseStatusSpec_eq_error hspec)
    · rw [bind_eq_error] at h
      rcases h with hp | ⟨_, -, hpure⟩
      · exact .text hc (parseStatusSpec_eq_ok.1 hsts).1 (checkPattern_eq_error.1 hp)
      · cases hpure
  · next spec items hc =>
    have hshape : EntryShaped doc (.str spec) m := ⟨⟨spec, rfl⟩, .inr ⟨items, hc⟩⟩
    rw [bind_eq_error] at h
    rcases h with hspec | ⟨sts, hsts, h⟩
    · exact .spec hshape (parseStatusSpec_eq_error hspec)
    · rw [bind_eq_error] at h
      rcases h with hps | ⟨_, -, hpure⟩
      · obtain ⟨pre, m', post, rfl, hpre, hm'⟩ := mapM_eq_error hps
        refine .list hc (parseStatusSpec_eq_ok.1 hsts).1 rfl ?_ (patternCell_eq_error hm')
        intro m'' hm''
        obtain ⟨p, hp⟩ := hpre m'' hm''
        exact ⟨p, patternCell_eq_ok.1 hp⟩
      · cases hpure
  · next h1 h2 =>
    cases h
    refine .shape ?_
    rintro ⟨⟨spec, rfl⟩, ⟨p, hp⟩ | ⟨ms, hms⟩⟩
    · exact h1 spec p rfl hp
    · exact h2 spec ms rfl hms

end Entries

/-! ## The open sequences of a walk -/

/-- The cells not yet open, `fresh`, track the open sequences `opn`: a
    sequence cell is fresh exactly when it is not open, and none is fresh
    twice. -/
def Tracks (doc : Graph) (fresh opn : List Nat) : Prop :=
  fresh.Nodup ∧ ∀ m items, doc.cell m = .seq items → (m ∈ fresh ↔ m ∉ opn)

/-- Every cell is fresh at the root of a document, where nothing is open. -/
theorem tracks_range (doc : Graph) : Tracks doc (List.range doc.cells.size) [] := by
  refine ⟨List.nodup_range, fun m items hm => ?_⟩
  -- a cell past the end is null, so a sequence cell lies in the range
  have hlt : m < doc.cells.size := by
    by_contra hge
    simp [Graph.cell, Array.getD, hge] at hm
  simp [hlt]

/-- Opening a fresh sequence keeps the tracking. -/
theorem Tracks.open {doc : Graph} {fresh opn : List Nat} {n : Nat} (h : Tracks doc fresh opn)
    (hn : n ∈ fresh) : Tracks doc (fresh.erase n) (n :: opn) := by
  obtain ⟨hnodup, htrack⟩ := h
  refine ⟨hnodup.erase n, fun m items hm => ?_⟩
  by_cases hmn : m = n
  · subst hmn
    simp [hnodup.not_mem_erase]
  · rw [List.mem_erase_of_ne hmn, htrack m items hm]
    simp [hmn]

/-! ## One step of the walk -/

section Step

variable {doc : Graph} {fresh : List Nat} {n : Nat}

theorem decodeCell_text {s : String} (hc : doc.cell n = .scalar (.str s)) :
    decodeCell doc fresh n = (Item.pattern <$> checkPattern (.str s)).mapError .format := by
  rw [decodeCell.eq_1, hc]

theorem decodeCell_seq {items : List Nat} (hc : doc.cell n = .seq items) (hn : n ∈ fresh) :
    decodeCell doc fresh n = Item.group <$> items.mapM (decodeCell doc (fresh.erase n)) := by
  rw [decodeCell.eq_1, hc]
  exact dif_pos (List.contains_iff_mem.2 hn)

theorem decodeCell_endless {items : List Nat} (hc : doc.cell n = .seq items) (hn : n ∉ fresh) :
    decodeCell doc fresh n = .error (.fault Fault.endless) := by
  rw [decodeCell.eq_1, hc]
  exact dif_neg (fun h => hn (List.contains_iff_mem.1 h))

theorem decodeCell_map {entries : List (Value × Nat)} (hc : doc.cell n = .map entries) :
    decodeCell doc fresh n =
      (Item.group <$> entries.mapM (fun (k, m) => decodeEntry doc k m)).mapError .format := by
  rw [decodeCell.eq_1, hc]

theorem decodeCell_other (h1 : ∀ s, doc.cell n ≠ .scalar (.str s))
    (h2 : ∀ items, doc.cell n ≠ .seq items) (h3 : ∀ entries, doc.cell n ≠ .map entries) :
    decodeCell doc fresh n = .error (.format (.unexpectedElement (doc.view n))) := by
  rw [decodeCell.eq_1]
  split
  · next hc => exact absurd hc (h1 _)
  · next hc => exact absurd hc (h2 _)
  · next hc => exact absurd hc (h3 _)
  · rfl

end Step

/-! ## Reading succeeds exactly on the grammar -/

theorem decodesAll_of_forall₂ {doc : Graph} {opn items : List Nat} {its : List Item}
    (h : List.Forall₂ (Decodes doc opn) items its) : DecodesAll doc opn items its := by
  induction h with
  | nil => exact .nil
  | cons hd _ ih => exact .cons hd ih

/-- What a cell reads into is its rule in the grammar, below the open
    sequences the fresh cells track. -/
theorem decodeCell_sound {doc : Graph} (fresh : List Nat) (n : Nat) :
    ∀ {opn : List Nat} {it : Item}, Tracks doc fresh opn →
      decodeCell doc fresh n = .ok it → Decodes doc opn n it := by
  induction fresh, n using decodeCell.induct doc with
  | case1 fresh n s hc =>
    intro opn it _ h
    rw [decodeCell_text hc, mapError_eq_ok, map_eq_ok] at h
    obtain ⟨p, hp, rfl⟩ := h
    obtain ⟨hok, rfl⟩ := checkPattern_eq_ok.1 hp
    exact .pattern hc hok
  | case2 fresh n items hc hn ih =>
    intro opn it ht h
    have hmem : n ∈ fresh := List.contains_iff_mem.1 hn
    rw [decodeCell_seq hc hmem, map_eq_ok] at h
    obtain ⟨its, hits, rfl⟩ := h
    -- the items are read with the sequence open, which it was not before
    have hopen : n ∉ opn := (ht.2 n items hc).1 hmem
    have hall := (mapM_eq_ok.1 hits).imp fun m it hm => ih m (ht.open hmem) hm
    exact .seq hc hopen (decodesAll_of_forall₂ hall)
  | case3 fresh n items hc hn =>
    intro opn it _ h
    rw [decodeCell_endless hc (fun hm => hn (List.contains_iff_mem.2 hm))] at h
    cases h
  | case4 fresh n entries hc =>
    intro opn it _ h
    rw [decodeCell_map hc, mapError_eq_ok, map_eq_ok] at h
    obtain ⟨its, hits, rfl⟩ := h
    exact .map hc ((mapM_eq_ok.1 hits).imp fun e it he => by
      obtain ⟨k, m⟩ := e
      exact decodeEntry_eq_ok.1 he)
  | case5 fresh n h1 h2 h3 =>
    intro opn it _ h
    rw [decodeCell_other h1 h2 h3] at h
    cases h

mutual
/-- A rule of the grammar is what its cell reads into, when the fresh cells
    track the open sequences. -/
theorem decodeCell_complete {doc : Graph} :
    ∀ {opn : List Nat} {n : Nat} {it : Item}, Decodes doc opn n it →
      ∀ {fresh : List Nat}, Tracks doc fresh opn → decodeCell doc fresh n = .ok it
  | _, _, _, .pattern hc hp, _, _ => by
    rw [decodeCell_text hc, checkPattern_eq_ok.2 ⟨hp, rfl⟩]
    rfl
  | _, _, _, .seq hc hopen hall, fresh, ht => by
    have hmem : _ ∈ fresh := (ht.2 _ _ hc).2 hopen
    rw [decodeCell_seq hc hmem, mapM_decodeCell_complete hall (ht.open hmem)]
    rfl
  | _, _, _, .map hc hall, _, _ => by
    rw [decodeCell_map hc, mapM_eq_ok.2 (hall.imp fun e it he => by
      obtain ⟨k, m⟩ := e
      exact decodeEntry_eq_ok.2 he)]
    rfl

theorem mapM_decodeCell_complete {doc : Graph} :
    ∀ {opn items : List Nat} {its : List Item}, DecodesAll doc opn items its →
      ∀ {fresh : List Nat}, Tracks doc fresh opn → items.mapM (decodeCell doc fresh) = .ok its
  | _, _, _, .nil, _, _ => rfl
  | _, _, _, .cons hd hrest, _, ht => by
    rw [List.mapM_cons, decodeCell_complete hd ht, mapM_decodeCell_complete hrest ht]
    rfl
end

/-! ## A failed read reports the first offence -/

/-- A cell that fails to read fails with the error of its first offence. -/
theorem decodeCell_error {doc : Graph} (fresh : List Nat) (n : Nat) :
    ∀ {opn : List Nat} {err : LoadError}, Tracks doc fresh opn →
      decodeCell doc fresh n = .error err → Offence doc opn n err := by
  induction fresh, n using decodeCell.induct doc with
  | case1 fresh n s hc =>
    intro opn err _ h
    rw [decodeCell_text hc, mapError_eq_error] at h
    obtain ⟨e, he, rfl⟩ := h
    exact .pattern hc (checkPattern_eq_error.1 (map_eq_error.1 he))
  | case2 fresh n items hc hn ih =>
    intro opn err ht h
    have hmem : n ∈ fresh := List.contains_iff_mem.1 hn
    rw [decodeCell_seq hc hmem, map_eq_error] at h
    obtain ⟨pre, m, post, rfl, hpre, hm⟩ := mapM_eq_error h
    -- the items before the failing one read, so they are rules of the grammar
    have hdone : ∀ m' ∈ pre, ∃ it, Decodes doc (n :: opn) m' it := by
      intro m' hm'
      obtain ⟨it, hit⟩ := hpre m' hm'
      exact ⟨it, decodeCell_sound _ _ (ht.open hmem) hit⟩
    exact .seq hc ((ht.2 n _ hc).1 hmem) rfl hdone (ih m (ht.open hmem) hm)
  | case3 fresh n items hc hn =>
    intro opn err ht h
    have hmem : n ∉ fresh := fun hm => hn (List.contains_iff_mem.2 hm)
    rw [decodeCell_endless hc hmem] at h
    cases h
    -- a sequence that is not fresh is open
    have hopen : n ∈ opn := by
      by_contra hno
      exact hmem ((ht.2 n items hc).2 hno)
    exact .endless hc hopen
  | case4 fresh n entries hc =>
    intro opn err _ h
    rw [decodeCell_map hc, mapError_eq_error] at h
    obtain ⟨e, he, rfl⟩ := h
    obtain ⟨pre, ⟨k, m⟩, post, rfl, hpre, hkm⟩ := mapM_eq_error (map_eq_error.1 he)
    have hdone : ∀ en ∈ pre, ∃ it, EntryDecodes doc en it := by
      rintro ⟨k', m'⟩ hen
      obtain ⟨it, hit⟩ := hpre _ hen
      exact ⟨it, decodeEntry_eq_ok.1 hit⟩
    exact .map hc rfl hdone (decodeEntry_eq_error hkm)
  | case5 fresh n h1 h2 h3 =>
    intro opn err _ h
    rw [decodeCell_other h1 h2 h3] at h
    cases h
    exact .unexpected h1 h2 h3

/-- Reading a rule node of a document succeeds exactly when the node is a
    rule of the grammar, with that rule as the result, and otherwise fails
    with the error of the node's first offence, depth first from the left.
    A status spec key may be empty text, which allows every status. -/
theorem decode_grammar (doc : Graph) (n : Nat) :
    (∀ it, decode doc n = .ok it ↔ Decodes doc [] n it) ∧
      (∀ err, decode doc n = .error err → Offence doc [] n err) :=
  ⟨fun _ => ⟨decodeCell_sound _ _ (tracks_range doc),
      fun h => decodeCell_complete h (tracks_range doc)⟩,
    fun _ => decodeCell_error _ _ (tracks_range doc)⟩

/-- A mapping with an empty status spec key reads as patterns for every
    status. -/
theorem empty_status_key_decodes :
    decode ⟨#[.scalar (.str "a/**"), .map [(.str "", 0)]], 1⟩ 1 =
      .ok (.group [.statusPatterns [] ["a/**"]]) := by
  obtain ⟨hspec, hstat⟩ := specOk_empty
  have hd : Decodes ⟨#[.scalar (.str "a/**"), .map [(.str "", 0)]], 1⟩ [] 1
      (.group [.statusPatterns (specStatuses "") ["a/**"]]) :=
    .map rfl (.cons (.text rfl hspec ⟨by decide, by decide⟩) .nil)
  rw [hstat] at hd
  exact ((decode_grammar _ 1).1 _).2 hd

end ChangeFilter.Rules
