import ChangeFilter.Proofs.Rules.Decode

/-! # Compiling a document: all or nothing

    Compiling a filter document with a pattern compiler gives the table of
    every entry or refuses the whole document. A document compiles exactly
    when its root is a mapping whose every key is a non-empty name, whose
    every value decodes to a rule, and whose every leaf pattern the compiler
    accepts. The table then holds the keys as names, in order, each with the
    predicates its value compiles to.

    A refused document reports a root that is not a mapping, or else its
    first entry, in document order, that does not compile. Within that entry
    a bad name comes first; then a node of the rule that does not decode,
    wherever it stands in the tree, so that a pattern the compiler refuses is
    never reported while any node of the rule fails to decode, even one to its
    right; then the first leaf pattern, depth first, that the compiler
    refuses.

    Main statements:
    * `compileItem_eq_error_iff` — a rule cell reports a decoding error
      before a refused pattern;
    * `compile_eq_error_iff` — a refused document reports its first refused
      entry;
    * `compile_all_or_nothing` — when a document compiles, what it compiles
      to, and what it is refused with otherwise, for every pattern
      compiler. -/

namespace ChangeFilter

/-! ## Traversals in `Except` that fail -/

section Except

variable {ε α β : Type}

/-- A traversal in `Except` succeeds exactly when every element does. -/
theorem exists_mapM_eq_ok {f : α → Except ε β} :
    ∀ {xs : List α}, (∃ ys, xs.mapM f = .ok ys) ↔ ∀ x ∈ xs, ∃ y, f x = .ok y
  | [] => by simp [pure, Except.pure]
  | x :: xs => by
    simp only [List.mapM_cons, bind_eq_ok, pure, Except.pure, Except.ok.injEq, List.mem_cons,
      forall_eq_or_imp, ← exists_mapM_eq_ok]
    constructor
    · rintro ⟨_, y, hy, ys, hys, rfl⟩
      exact ⟨⟨y, hy⟩, ys, hys⟩
    · rintro ⟨⟨y, hy⟩, ys, hys⟩
      exact ⟨_, y, hy, ys, hys, rfl⟩

/-- A traversal fails with the error of an element when every element
    before it succeeds. -/
theorem mapM_eq_error_of_first {f : α → Except ε β} {e : ε} {x : α} {post : List α} :
    ∀ {pre : List α}, (∀ y ∈ pre, ∃ z, f y = .ok z) → f x = .error e →
      (pre ++ x :: post).mapM f = .error e
  | [], _, hx => by
    rw [List.nil_append, List.mapM_cons, hx]
    rfl
  | y :: pre, hpre, hx => by
    obtain ⟨z, hz⟩ := hpre y List.mem_cons_self
    have hrest : (pre ++ x :: post).mapM f = .error e :=
      mapM_eq_error_of_first (fun w hw => hpre w (List.mem_cons_of_mem y hw)) hx
    rw [List.cons_append, List.mapM_cons, hz, bind_eq_error]
    exact .inr ⟨z, rfl, by rw [hrest]; rfl⟩

/-- A traversal fails exactly at its first failing element. -/
theorem mapM_eq_error_iff {f : α → Except ε β} {xs : List α} {e : ε} :
    xs.mapM f = .error e ↔
      ∃ pre x post, xs = pre ++ x :: post ∧ (∀ y ∈ pre, ∃ z, f y = .ok z) ∧ f x = .error e := by
  constructor
  · exact mapM_eq_error
  · rintro ⟨pre, x, post, rfl, hpre, hx⟩
    exact mapM_eq_error_of_first hpre hx

end Except

end ChangeFilter

namespace ChangeFilter.Rules

variable {g : PatternCompiler} {doc : Graph}

/-! ## Compiling the leaves of a rule -/

/-- The predicate a leaf compiles to under `g`. -/
theorem compiledLeaf_eq_error (statuses : List Status) (p : String) (e : FormatError) :
    (do let test ← g p
        pure ({ pattern := p, statuses, test } : Predicate) : Except FormatError Predicate) =
      .error e ↔ g p = .error e := by
  cases g p <;> simp [bind, Except.bind, pure, Except.pure]

theorem exists_compiledLeaf_eq_ok (statuses : List Status) (p : String) :
    (∃ pred,
      (do let test ← g p
          pure ({ pattern := p, statuses, test } : Predicate) : Except FormatError Predicate) =
        .ok pred) ↔ ∃ test, g p = .ok test := by
  cases g p <;> simp [bind, Except.bind, pure, Except.pure]

/-- A rule cell compiles exactly when it decodes and the compiler accepts
    every leaf pattern of its rule. -/
theorem exists_compileItem_eq_ok {n : Nat} :
    (∃ preds, compileItem g doc n = .ok preds) ↔
      ∃ it, decode doc n = .ok it ∧ ∀ leaf ∈ it.leaves, ∃ test, g leaf.2 = .ok test := by
  unfold compileItem
  cases decode doc n with
  | error e => simp [bind, Except.bind]
  | ok it =>
    simp only [bind, Except.bind, Except.ok.injEq, exists_eq_left', mapError_eq_ok,
      exists_mapM_eq_ok]
    refine forall₂_congr fun leaf _ => ?_
    obtain ⟨statuses, p⟩ := leaf
    exact exists_compiledLeaf_eq_ok statuses p

/-- A rule cell that fails to compile reports a node that does not decode,
    wherever it stands; only a rule that decodes reports its first leaf
    pattern, depth first, that the compiler refuses. -/
theorem compileItem_eq_error_iff {n : Nat} {err : LoadError} :
    compileItem g doc n = .error err ↔
      decode doc n = .error err ∨
        ∃ it, decode doc n = .ok it ∧ ∃ pre leaf post e, it.leaves = pre ++ leaf :: post ∧
          (∀ l ∈ pre, ∃ test, g l.2 = .ok test) ∧ g leaf.2 = .error e ∧ err = .format e := by
  unfold compileItem
  cases decode doc n with
  | error e => simp [bind, Except.bind]
  | ok it =>
    simp only [bind, Except.bind, reduceCtorEq, false_or, Except.ok.injEq, exists_eq_left',
      mapError_eq_error, mapM_eq_error_iff]
    constructor
    · rintro ⟨e, ⟨pre, ⟨statuses, p⟩, post, hsplit, hpre, hleaf⟩, rfl⟩
      refine ⟨pre, (statuses, p), post, e, hsplit, fun l hl => ?_,
        (compiledLeaf_eq_error statuses p e).1 hleaf, rfl⟩
      obtain ⟨statuses', p'⟩ := l
      exact (exists_compiledLeaf_eq_ok statuses' p').1 (hpre _ hl)
    · rintro ⟨pre, ⟨statuses, p⟩, post, e, hsplit, hpre, hleaf, rfl⟩
      refine ⟨e, ⟨pre, (statuses, p), post, hsplit, fun l hl => ?_,
        (compiledLeaf_eq_error statuses p e).2 hleaf⟩, rfl⟩
      obtain ⟨statuses', p'⟩ := l
      exact (exists_compiledLeaf_eq_ok statuses' p').2 (hpre _ hl)

/-! ## Compiling the entries of a document -/

/-- An entry compiles: its key is a good filter name, its value decodes to a
    rule, and the compiler accepts every leaf pattern of that rule. -/
def EntryOk (g : PatternCompiler) (doc : Graph) (e : Value × Nat) : Prop :=
  (∃ name, checkName e.1 = .ok name) ∧
    ∃ it, decode doc e.2 = .ok it ∧ ∀ leaf ∈ it.leaves, ∃ test, g leaf.2 = .ok test

/-- What an entry is refused with: a bad name first; with a good name, the
    error of the rule when it does not decode; with a rule that decodes, the
    first leaf pattern, depth first, that the compiler refuses. -/
inductive EntryRefusal (g : PatternCompiler) (doc : Graph) : Value × Nat → LoadError → Prop
  | name {k : Value} {n : Nat} {e : FormatError} :
      checkName k = .error e → EntryRefusal g doc (k, n) (.format e)
  | decode {k : Value} {n : Nat} {name : String} {err : LoadError} :
      checkName k = .ok name → decode doc n = .error err → EntryRefusal g doc (k, n) err
  | pattern {k : Value} {n : Nat} {name : String} {it : Item} {pre post : List (List Status × String)}
      {leaf : List Status × String} {e : FormatError} :
      checkName k = .ok name → decode doc n = .ok it → it.leaves = pre ++ leaf :: post →
      (∀ l ∈ pre, ∃ test, g l.2 = .ok test) → g leaf.2 = .error e →
      EntryRefusal g doc (k, n) (.format e)

/-- What a document is refused with: a root that is not a mapping, else the
    refusal of its first entry that does not compile. -/
inductive Refusal (g : PatternCompiler) (doc : Graph) : LoadError → Prop
  | root :
      (∀ entries, doc.cell doc.root ≠ .map entries) →
      Refusal g doc (.format (.rootNotMapping doc.rootView))
  | entry {entries pre post : List (Value × Nat)} {e : Value × Nat} {err : LoadError} :
      doc.cell doc.root = .map entries → entries = pre ++ e :: post →
      (∀ e' ∈ pre, EntryOk g doc e') → EntryRefusal g doc e err → Refusal g doc err

/-- The step that compiles one entry of a document. -/
theorem entry_isOk (k : Value) (n : Nat) :
    (∃ r,
      (do let name ← (checkName k).mapError LoadError.format
          let predicates ← compileItem g doc n
          pure ({ name, predicates } : Rule) : Except LoadError Rule) = .ok r) ↔
      EntryOk g doc (k, n) := by
  simp only [EntryOk, bind_eq_ok, mapError_eq_ok, pure, Except.pure, Except.ok.injEq,
    ← exists_compileItem_eq_ok]
  constructor
  · rintro ⟨_, name, hname, preds, hpreds, -⟩
    exact ⟨⟨name, hname⟩, preds, hpreds⟩
  · rintro ⟨⟨name, hname⟩, preds, hpreds⟩
    exact ⟨_, name, hname, preds, hpreds, rfl⟩

theorem entry_eq_error (k : Value) (n : Nat) (err : LoadError) :
    (do let name ← (checkName k).mapError LoadError.format
        let predicates ← compileItem g doc n
        pure ({ name, predicates } : Rule) : Except LoadError Rule) = .error err ↔
      EntryRefusal g doc (k, n) err := by
  simp only [bind_eq_error, mapError_eq_error, mapError_eq_ok, pure, Except.pure, reduceCtorEq,
    and_false, exists_false, or_false, compileItem_eq_error_iff]
  constructor
  · rintro (⟨e, he, rfl⟩ | ⟨name, hname, hdec | ⟨it, hit, pre, leaf, post, e, hsplit, hpre, hleaf, rfl⟩⟩)
    · exact .name he
    · exact .decode hname hdec
    · exact .pattern hname hit hsplit hpre hleaf
  · intro h
    cases h with
    | name he => exact .inl ⟨_, he, rfl⟩
    | decode hname hdec => exact .inr ⟨_, hname, .inl hdec⟩
    | pattern hname hit hsplit hpre hleaf =>
      exact .inr ⟨_, hname, .inr ⟨_, hit, _, _, _, _, hsplit, hpre, hleaf, rfl⟩⟩

/-- A document is refused exactly with its first refusal: a root that is
    not a mapping, else the refusal of the first entry, in document order,
    that does not compile. -/
theorem compile_eq_error_iff {err : LoadError} : compile g doc = .error err ↔ Refusal g doc err := by
  unfold compile
  split
  · next entries hroot =>
    rw [bind_eq_error]
    simp only [pure, Except.pure, reduceCtorEq, and_false, exists_false, or_false,
      mapM_eq_error_iff]
    constructor
    · rintro ⟨pre, ⟨k, n⟩, post, rfl, hpre, he⟩
      refine .entry hroot rfl (fun e' he' => ?_) ((entry_eq_error k n err).1 he)
      obtain ⟨k', n'⟩ := e'
      exact (entry_isOk k' n').1 (hpre _ he')
    · intro h
      cases h with
      | root hnot => exact absurd hroot (hnot entries)
      | @entry entries' pre post e _ hroot' hsplit hpre he =>
        rw [hroot, Cell.map.injEq] at hroot'
        subst hroot'
        obtain ⟨k, n⟩ := e
        refine ⟨_, (k, n), _, hsplit, fun e' he' => ?_, (entry_eq_error k n err).2 he⟩
        obtain ⟨k', n'⟩ := e'
        exact (entry_isOk k' n').2 (hpre _ he')
  · next hroot =>
    constructor
    · rintro ⟨⟩
      exact .root hroot
    · intro h
      cases h with
      | root => rfl
      | entry hroot' => exact absurd hroot' (hroot _)

/-- A document compiles exactly when its root is a mapping and every entry
    compiles. -/
theorem exists_compile_eq_ok :
    (∃ t, compile g doc = .ok t) ↔
      ∃ entries, doc.cell doc.root = .map entries ∧ ∀ e ∈ entries, EntryOk g doc e := by
  unfold compile
  split
  · next entries hroot =>
    simp only [hroot, Cell.map.injEq, exists_eq_left', bind_eq_ok, pure, Except.pure,
      Except.ok.injEq]
    rw [exists_comm]
    simp only [exists_eq_right', exists_mapM_eq_ok]
    refine forall₂_congr fun e _ => ?_
    obtain ⟨k, n⟩ := e
    exact entry_isOk k n
  · next hroot =>
    simp only [reduceCtorEq, exists_false, false_iff, not_exists, not_and]
    exact fun entries hm => absurd hm (hroot entries)

/-! ## All or nothing -/

/-- Compiling a filter document with any pattern compiler is all or nothing.
    It gives a table exactly when the root is a mapping whose every key is a
    good filter name, whose every value decodes to a rule, and whose every
    leaf pattern the compiler accepts; the table then names the keys in
    order, each with the predicates its value compiles to. Otherwise it
    reports a root that is not a mapping, or the first entry that does not
    compile: its bad name, else the decoding error of its rule wherever in the
    tree it lies, else its first refused pattern. -/
theorem compile_all_or_nothing (g : PatternCompiler) (doc : Graph) :
    ((∃ t, compile g doc = .ok t) ↔
      ∃ entries, doc.cell doc.root = .map entries ∧ ∀ e ∈ entries, EntryOk g doc e) ∧
    (∀ t, compile g doc = .ok t ↔
      ∃ entries, doc.cell doc.root = .map entries ∧
        List.Forall₂ (fun e r => e.1 = .str r.name ∧ r.name ≠ "" ∧
          compileItem g doc e.2 = .ok r.predicates) entries t.rules) ∧
    (∀ err, compile g doc = .error err ↔ Refusal g doc err) :=
  ⟨exists_compile_eq_ok, fun _ => compile_eq_ok, fun _ => compile_eq_error_iff⟩

end ChangeFilter.Rules
