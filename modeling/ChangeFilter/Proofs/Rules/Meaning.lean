import ChangeFilter.Rules.Engine
import ChangeFilter.Proofs.Glob.Reading

/-! # Rule tables: what a compiled document means

    A filter document maps names to rule trees. Compiling it with the glob
    compiler keeps the names in document order and turns each tree into the
    predicates of its leaves, depth first. So a table answers every question
    about a filter from the leaves of its rule alone:

    * a leaf, a status set with a pattern, holds of a changed file when the
      set is empty or holds the file's status, and the glob accepts its path;
    * under `some` a rule is met when one of its leaves holds, and under
      `every` when it has a leaf and all of its leaves hold.

    A group of rules is met under `some` when one of its members is; under
    `every` the members without leaves do not count, and at least one member
    must have some. A rule without leaves is never met.

    Main statements:
    * `isMatch_iff` — the engine's test is the meaning of the rule;
    * `compile_eq_ok` — a compiled table names the entries of its document,
      each with the predicates of its decoded rule;
    * `compiled_table_meaning` — `matchFiles`, `matches?` and
      `matchingNames` of a compiled table, read off the decoded rules. -/

namespace ChangeFilter

/-! ## Steps in `Except` -/

section Except

variable {ε α β : Type}

theorem bind_eq_ok {x : Except ε α} {f : α → Except ε β} {b : β} :
    x >>= f = .ok b ↔ ∃ a, x = .ok a ∧ f a = .ok b := by
  cases x <;> simp [bind, Except.bind]

theorem bind_eq_error {x : Except ε α} {f : α → Except ε β} {e : ε} :
    x >>= f = .error e ↔ x = .error e ∨ ∃ a, x = .ok a ∧ f a = .error e := by
  cases x <;> simp [bind, Except.bind]

theorem map_eq_ok {x : Except ε α} {f : α → β} {b : β} :
    f <$> x = .ok b ↔ ∃ a, x = .ok a ∧ f a = b := by
  cases x <;> simp [Functor.map, Except.map]

theorem map_eq_error {x : Except ε α} {f : α → β} {e : ε} : f <$> x = .error e ↔ x = .error e := by
  cases x <;> simp [Functor.map, Except.map]

theorem mapError_eq_ok {ε' : Type} {x : Except ε α} {f : ε → ε'} {a : α} :
    x.mapError f = .ok a ↔ x = .ok a := by
  cases x <;> simp [Except.mapError]

theorem mapError_eq_error {ε' : Type} {x : Except ε α} {f : ε → ε'} {e' : ε'} :
    x.mapError f = .error e' ↔ ∃ e, x = .error e ∧ f e = e' := by
  cases x <;> simp [Except.mapError]

/-- A traversal in `Except` succeeds exactly when every element succeeds,
    and the results stand in order. -/
theorem mapM_eq_ok {f : α → Except ε β} {xs : List α} {ys : List β} :
    xs.mapM f = .ok ys ↔ List.Forall₂ (fun x y => f x = .ok y) xs ys := by
  induction xs generalizing ys with
  | nil => cases ys <;> simp [pure, Except.pure]
  | cons x xs ih =>
    -- the head is run first; a failure there or in the tail is the result
    rw [List.mapM_cons]
    cases ys with
    | nil => cases f x <;> cases xs.mapM f <;> simp [bind, Except.bind, pure, Except.pure]
    | cons y ys =>
      rw [List.forall₂_cons, ← ih]
      cases f x <;> cases xs.mapM f <;> simp [bind, Except.bind, pure, Except.pure]

/-- A traversal that fails stopped at its first failing element, after
    elements that all succeeded. -/
theorem mapM_eq_error {f : α → Except ε β} {e : ε} :
    ∀ {xs : List α}, xs.mapM f = .error e →
      ∃ pre x post, xs = pre ++ x :: post ∧ (∀ y ∈ pre, ∃ z, f y = .ok z) ∧ f x = .error e
  | [], h => by simp [pure, Except.pure] at h
  | x :: xs, h => by
    rw [List.mapM_cons, bind_eq_error] at h
    rcases h with hx | ⟨z, hx, hrest⟩
    · exact ⟨[], x, xs, rfl, by simp, hx⟩
    · -- the head succeeded, so the failure lies in the tail
      rw [bind_eq_error] at hrest
      rcases hrest with hxs | ⟨_, -, hpure⟩
      · obtain ⟨pre, y, post, rfl, hpre, hy⟩ := mapM_eq_error hxs
        refine ⟨x :: pre, y, post, rfl, ?_, hy⟩
        rintro w (_ | ⟨_, hw⟩)
        · exact ⟨z, hx⟩
        · exact hpre w hw
      · simp [pure, Except.pure] at hpure

end Except

end ChangeFilter

namespace ChangeFilter.Rules

open Glob (Accepts)

/-! ## Acceptance by the glob compiler -/

theorem accepts_of_compile {glob path : String} {pat : Glob.Pattern}
    (h : Glob.compile glob = .ok pat) : Accepts glob path ↔ pat.accepts path = true := by
  constructor
  · rintro ⟨q, hq, hacc⟩
    rw [h] at hq
    cases hq
    exact hacc
  · exact fun hacc => ⟨pat, h, hacc⟩

theorem not_accepts_of_compile {glob path : String} {e : Glob.Error}
    (h : Glob.compile glob = .error e) : ¬ Accepts glob path := by
  rintro ⟨q, hq, -⟩
  rw [h] at hq
  cases hq

/-- Acceptance is decided by compiling the glob. -/
instance (glob path : String) : Decidable (Accepts glob path) :=
  match h : Glob.compile glob with
  | .ok _ => decidable_of_iff _ (accepts_of_compile h).symm
  | .error _ => isFalse (not_accepts_of_compile h)

/-- The test the glob compiler gives a pattern is acceptance by the glob. -/
theorem globCompiler_test {p : String} {test : String → Bool} (h : globCompiler p = .ok test)
    (path : String) : test path = true ↔ Accepts p path := by
  unfold globCompiler at h
  split at h
  · next _ hc =>
    cases h
    exact (accepts_of_compile hc).symm
  · cases h

/-! ## The meaning of a rule -/

/-- A leaf of a rule holds of a changed file: its status set is empty or
    holds the file's status, and its glob accepts the file's path. -/
def LeafHolds (f : ChangedFile) (leaf : List Status × String) : Prop :=
  (leaf.1 = [] ∨ f.status ∈ leaf.1) ∧ Accepts leaf.2 f.path

instance (f : ChangedFile) (leaf : List Status × String) : Decidable (LeafHolds f leaf) := by
  unfold LeafHolds
  infer_instance

/-- A rule is met by a changed file under a quantifier: under `some` one of
    its leaves holds, under `every` it has leaves and all of them hold. -/
def Meets : Quantifier → Item → ChangedFile → Prop
  | .any, it, f => ∃ leaf ∈ it.leaves, LeafHolds f leaf
  | .all, it, f => it.leaves ≠ [] ∧ ∀ leaf ∈ it.leaves, LeafHolds f leaf

instance (q : Quantifier) (it : Item) (f : ChangedFile) : Decidable (Meets q it f) := by
  cases q <;> unfold Meets <;> infer_instance

theorem mem_leavesAll {leaf : List Status × String} :
    ∀ {items : List Item}, leaf ∈ Item.leaves.leavesAll items ↔ ∃ i ∈ items, leaf ∈ i.leaves
  | [] => by simp [Item.leaves.leavesAll]
  | i :: rest => by
    simp only [Item.leaves.leavesAll, List.mem_append, List.mem_cons, exists_eq_or_imp]
    rw [mem_leavesAll]

theorem leavesAll_eq_nil_iff :
    ∀ {items : List Item}, Item.leaves.leavesAll items = [] ↔ ∀ i ∈ items, i.leaves = []
  | [] => by simp [Item.leaves.leavesAll]
  | i :: rest => by
    simp only [Item.leaves.leavesAll, List.append_eq_nil_iff, List.mem_cons, forall_eq_or_imp]
    rw [leavesAll_eq_nil_iff]

/-- Under `some` a group is met when one of its members is. -/
theorem meets_group_any (items : List Item) (f : ChangedFile) :
    Meets .any (.group items) f ↔ ∃ i ∈ items, Meets .any i f := by
  simp only [Meets, Item.leaves, mem_leavesAll]
  constructor
  · rintro ⟨leaf, ⟨i, hi, hleaf⟩, hholds⟩
    exact ⟨i, hi, leaf, hleaf, hholds⟩
  · rintro ⟨i, hi, leaf, hleaf, hholds⟩
    exact ⟨leaf, ⟨i, hi, hleaf⟩, hholds⟩

/-- Under `every` a group is met when some member has leaves and every
    member with leaves is met: members without leaves are neutral. -/
theorem meets_group_all (items : List Item) (f : ChangedFile) :
    Meets .all (.group items) f ↔
      (∃ i ∈ items, i.leaves ≠ []) ∧ ∀ i ∈ items, i.leaves ≠ [] → Meets .all i f := by
  simp only [Meets, Item.leaves, ne_eq, leavesAll_eq_nil_iff, not_forall, mem_leavesAll]
  constructor
  · rintro ⟨⟨i, hi, hne⟩, hall⟩
    exact ⟨⟨i, hi, hne⟩, fun j hj _ => ⟨‹_›, fun leaf hleaf => hall leaf ⟨j, hj, hleaf⟩⟩⟩
  · rintro ⟨⟨i, hi, hne⟩, hall⟩
    refine ⟨⟨i, hi, hne⟩, ?_⟩
    rintro leaf ⟨j, hj, hleaf⟩
    have hj' : j.leaves ≠ [] := List.ne_nil_of_mem hleaf
    exact (hall j hj hj').2 leaf hleaf

/-- A rule without leaves is met under no quantifier. -/
theorem not_meets_of_leaves_eq_nil {it : Item} (h : it.leaves = []) (q : Quantifier)
    (f : ChangedFile) : ¬ Meets q it f := by
  cases q with
  | any => simp [Meets, h]
  | all => simp [Meets, h]

/-! ## Compiled predicates -/

/-- A predicate is the compiled form of a leaf: it keeps the leaf's status
    set and pattern, and its test is the glob compiler's test of the pattern. -/
def Compiled (leaf : List Status × String) (p : Predicate) : Prop :=
  p.statuses = leaf.1 ∧ p.pattern = leaf.2 ∧ globCompiler leaf.2 = .ok p.test

theorem accepts_iff_leafHolds {leaf : List Status × String} {p : Predicate} (h : Compiled leaf p)
    (f : ChangedFile) : p.accepts f = true ↔ LeafHolds f leaf := by
  obtain ⟨hs, -, htest⟩ := h
  unfold Predicate.accepts LeafHolds
  rw [Bool.and_eq_true, globCompiler_test htest, hs]
  simp [List.isEmpty_iff]

section Leaves

variable {leaves : List (List Status × String)} {preds : List Predicate}

theorem any_accepts_iff (h : List.Forall₂ Compiled leaves preds) (f : ChangedFile) :
    preds.any (·.accepts f) = true ↔ ∃ leaf ∈ leaves, LeafHolds f leaf := by
  induction h with
  | nil => simp
  | cons hlp _ ih => simp [accepts_iff_leafHolds hlp, ih]

theorem all_accepts_iff (h : List.Forall₂ Compiled leaves preds) (f : ChangedFile) :
    preds.all (·.accepts f) = true ↔ ∀ leaf ∈ leaves, LeafHolds f leaf := by
  induction h with
  | nil => simp
  | cons hlp _ ih => simp [accepts_iff_leafHolds hlp, ih]

end Leaves

/-- The engine's test of a filter is the meaning of its rule, for the
    predicates compiled from the rule's leaves. -/
theorem isMatch_iff {it : Item} {preds : List Predicate}
    (h : List.Forall₂ Compiled it.leaves preds) (q : Quantifier) (f : ChangedFile) :
    isMatch q preds f = true ↔ Meets q it f := by
  have hempty : preds.isEmpty = true ↔ it.leaves = [] := by
    rw [List.isEmpty_iff]
    exact ⟨fun hp => List.forall₂_nil_right_iff.1 (hp ▸ h), fun hl => List.forall₂_nil_left_iff.1 (hl ▸ h)⟩
  unfold isMatch
  cases q with
  | any =>
    rw [Bool.and_eq_true, Bool.not_eq_true', any_accepts_iff h]
    constructor
    · exact fun hm => hm.2
    · -- a leaf that holds shows the rule has leaves
      rintro ⟨leaf, hleaf, hholds⟩
      refine ⟨?_, leaf, hleaf, hholds⟩
      rw [Bool.eq_false_iff, ne_eq, hempty]
      exact List.ne_nil_of_mem hleaf
  | all =>
    rw [Bool.and_eq_true, Bool.not_eq_true', all_accepts_iff h, Bool.eq_false_iff, ne_eq, hempty]
    rfl

/-! ## Compiling a document -/

theorem compiledLeaf_eq_ok (statuses : List Status) (p : String) (pred : Predicate) :
    (do let test ← globCompiler p
        pure ({ pattern := p, statuses, test } : Predicate) : Except FormatError Predicate) =
      .ok pred ↔ Compiled (statuses, p) pred := by
  cases hg : globCompiler p with
  | error e => simp [bind, Except.bind, Compiled, hg]
  | ok test =>
    simp only [bind, Except.bind, pure, Except.pure, Except.ok.injEq, Compiled, hg]
    constructor
    · rintro rfl
      exact ⟨rfl, rfl, rfl⟩
    · rintro ⟨hs, hp, rfl⟩
      cases pred
      simp_all

/-- A rule cell compiles to predicates exactly when it decodes to a rule
    whose leaves compile to them, in order. -/
theorem compileItem_eq_ok {doc : Graph} {n : Nat} {preds : List Predicate} :
    compileItem globCompiler doc n = .ok preds ↔
      ∃ it, decode doc n = .ok it ∧ List.Forall₂ Compiled it.leaves preds := by
  unfold compileItem
  cases hd : decode doc n with
  | error e => simp [bind, Except.bind]
  | ok it =>
    simp only [bind, Except.bind, Except.ok.injEq, exists_eq_left']
    rw [mapError_eq_ok, mapM_eq_ok]
    constructor
    · refine fun h => h.imp fun leaf pred hlp => ?_
      obtain ⟨statuses, p⟩ := leaf
      exact (compiledLeaf_eq_ok statuses p pred).1 hlp
    · refine fun h => h.imp fun leaf pred hlp => ?_
      obtain ⟨statuses, p⟩ := leaf
      exact (compiledLeaf_eq_ok statuses p pred).2 hlp

theorem checkName_eq_ok {k : Value} {name : String} :
    checkName k = .ok name ↔ k = .str name ∧ name ≠ "" := by
  cases k with
  | str s =>
    by_cases hs : s = ""
    · subst hs
      simp [checkName]
    · simp only [checkName, String.isEmpty_iff, hs, if_false, Except.ok.injEq, Value.str.injEq]
      constructor
      · rintro rfl
        exact ⟨rfl, hs⟩
      · exact fun h => h.1
  | _ => simp [checkName]

/-- One entry of a document compiles to a filter: its key is the filter's
    non-empty name and its cell compiles to the filter's predicates. -/
theorem entry_eq_ok {g : PatternCompiler} {doc : Graph} (k : Value) (n : Nat) (r : Rule) :
    (do let name ← (checkName k).mapError LoadError.format
        let predicates ← compileItem g doc n
        pure ({ name, predicates } : Rule) : Except LoadError Rule) = .ok r ↔
      k = .str r.name ∧ r.name ≠ "" ∧ compileItem g doc n = .ok r.predicates := by
  simp only [bind_eq_ok, mapError_eq_ok, checkName_eq_ok, pure, Except.pure, Except.ok.injEq]
  constructor
  · rintro ⟨name, ⟨rfl, hne⟩, preds, hpreds, rfl⟩
    exact ⟨rfl, hne, hpreds⟩
  · rintro ⟨hk, hne, hpreds⟩
    exact ⟨r.name, ⟨hk, hne⟩, r.predicates, hpreds, rfl⟩

/-- A document compiles to a table, under any pattern compiler, exactly when
    its root is a mapping whose entries give the table's filters in order: each key is a non-empty
    name, and each value a rule cell that compiles to the filter's
    predicates. -/
theorem compile_eq_ok {g : PatternCompiler} {doc : Graph} {t : Table} :
    compile g doc = .ok t ↔
      ∃ entries, doc.cell doc.root = .map entries ∧
        List.Forall₂ (fun e r => e.1 = .str r.name ∧ r.name ≠ "" ∧
          compileItem g doc e.2 = .ok r.predicates) entries t.rules := by
  unfold compile
  split
  · next entries hroot =>
    simp only [hroot, Cell.map.injEq, exists_eq_left']
    rw [bind_eq_ok]
    simp only [pure, Except.pure, Except.ok.injEq, mapM_eq_ok]
    constructor
    · rintro ⟨rules, hrules, rfl⟩
      refine hrules.imp fun e r h => ?_
      obtain ⟨k, n⟩ := e
      exact (entry_eq_ok k n r).1 h
    · intro h
      refine ⟨t.rules, h.imp fun e r h => ?_, rfl⟩
      obtain ⟨k, n⟩ := e
      exact (entry_eq_ok k n r).2 h
  · -- a root that is not a mapping is refused before any entry is read
    next hroot =>
    simp only [reduceCtorEq, false_iff, not_exists, not_and]
    intro entries hm
    exact absurd hm (hroot entries)

/-! ## The table of a document -/

/-- Filters stand for a list of named rules: the same names in order, and
    each filter's predicates compiled from its rule's leaves. -/
def Denotes (rules : List Rule) (filters : List (String × Item)) : Prop :=
  List.Forall₂ (fun r fl => r.name = fl.1 ∧ List.Forall₂ Compiled fl.2.leaves r.predicates)
    rules filters

/-- The filters of a compiled document are the rules its entries decode to. -/
theorem exists_filters {doc : Graph} {entries : List (Value × Nat)} {rules : List Rule}
    (h : List.Forall₂ (fun e r => e.1 = .str r.name ∧ r.name ≠ "" ∧
      compileItem globCompiler doc e.2 = .ok r.predicates) entries rules) :
    ∃ filters : List (String × Item),
      List.Forall₂ (fun e fl => e.1 = .str fl.1 ∧ decode doc e.2 = .ok fl.2) entries filters ∧
        Denotes rules filters := by
  induction h with
  | nil => exact ⟨[], .nil, .nil⟩
  | @cons e r es rs her _ ih =>
    obtain ⟨hk, -, hc⟩ := her
    obtain ⟨it, hdec, hcomp⟩ := compileItem_eq_ok.1 hc
    obtain ⟨fls, hes, hden⟩ := ih
    exact ⟨(r.name, it) :: fls, .cons ⟨hk, hdec⟩ hes, .cons ⟨rfl, hcomp⟩ hden⟩

theorem isMatch_eq_decide {it : Item} {preds : List Predicate}
    (h : List.Forall₂ Compiled it.leaves preds) (q : Quantifier) (f : ChangedFile) :
    isMatch q preds f = decide (Meets q it f) := by
  rw [Bool.eq_iff_iff, decide_eq_true_iff]
  exact isMatch_iff h q f

section Filters

variable {rules : List Rule} {filters : List (String × Item)}

theorem names_of_denotes (h : Denotes rules filters) :
    rules.map (·.name) = filters.map Prod.fst := by
  induction h with
  | nil => rfl
  | cons hr _ ih => simp [hr.1, ih]

theorem matchFiles_of_denotes (h : Denotes rules filters) (q : Quantifier)
    (files : List ChangedFile) :
    rules.map (fun r => (r.name, files.filter (isMatch q r.predicates))) =
      filters.map (fun fl => (fl.1, files.filter fun g => decide (Meets q fl.2 g))) := by
  induction h with
  | nil => rfl
  | @cons r fl _ _ hr _ ih =>
    have hfilter : files.filter (isMatch q r.predicates) =
        files.filter fun g => decide (Meets q fl.2 g) :=
      List.filter_congr fun g _ => isMatch_eq_decide hr.2 q g
    simp [hr.1, hfilter, ih]

theorem find?_of_denotes (h : Denotes rules filters) (q : Quantifier) (n : String)
    (f : ChangedFile) :
    (rules.find? (·.name == n)).map (fun r => isMatch q r.predicates f) =
      (filters.find? (·.1 == n)).map (fun fl => decide (Meets q fl.2 f)) := by
  induction h with
  | nil => rfl
  | @cons r fl _ _ hr _ ih =>
    rw [List.find?_cons, List.find?_cons, hr.1]
    split
    · simp [isMatch_eq_decide hr.2 q f]
    · exact ih

theorem matchingNames_of_denotes (h : Denotes rules filters) (q : Quantifier)
    (f : ChangedFile) :
    (rules.filter fun r => isMatch q r.predicates f).map (·.name) =
      (filters.filter fun fl => decide (Meets q fl.2 f)).map Prod.fst := by
  induction h with
  | nil => rfl
  | @cons r fl _ _ hr _ ih =>
    rw [List.filter_cons, List.filter_cons, isMatch_eq_decide hr.2 q f]
    split
    · simp [hr.1, ih]
    · exact ih

end Filters

/-- `matches?` answers for every name of the table and for no other. -/
theorem matches?_eq_none_iff (t : Table) (q : Quantifier) (n : String) (f : ChangedFile) :
    t.matches? q n f = none ↔ n ∉ t.names := by
  simp [Table.matches?, Table.names, List.find?_eq_none]

/-! ## What a compiled document means -/

/-- The meaning of a compiled filter document. Its table names the keys of
    the document in order, each with the rule its cell decodes to; `matchFiles`
    keeps, for each filter, the files that meet its rule, in order and with
    repeats; `matches?` answers whether the first filter of a name meets a
    file, and answers for exactly the table's names; `matchingNames` lists the
    filters a file meets. A group is met under `some` when a member is, and
    under `every` when a member has leaves and every member with leaves is
    met; a rule without leaves is never met. -/
theorem compiled_table_meaning :
    (∀ (doc : Graph) (t : Table), compile globCompiler doc = .ok t →
      ∃ (entries : List (Value × Nat)) (filters : List (String × Item)),
        doc.cell doc.root = .map entries ∧
        List.Forall₂ (fun e fl => e.1 = .str fl.1 ∧ decode doc e.2 = .ok fl.2) entries filters ∧
        t.names = filters.map Prod.fst ∧
        ∀ (q : Quantifier) (files : List ChangedFile) (n : String) (f : ChangedFile),
          t.matchFiles q files =
            filters.map (fun fl => (fl.1, files.filter fun g => decide (Meets q fl.2 g))) ∧
          t.matches? q n f = (filters.find? (·.1 == n)).map (fun fl => decide (Meets q fl.2 f)) ∧
          (t.matches? q n f = none ↔ n ∉ t.names) ∧
          t.matchingNames q f = (filters.filter fun fl => decide (Meets q fl.2 f)).map Prod.fst) ∧
    (∀ (items : List Item) (f : ChangedFile),
      Meets .any (.group items) f ↔ ∃ i ∈ items, Meets .any i f) ∧
    (∀ (items : List Item) (f : ChangedFile),
      Meets .all (.group items) f ↔
        (∃ i ∈ items, i.leaves ≠ []) ∧ ∀ i ∈ items, i.leaves ≠ [] → Meets .all i f) ∧
    (∀ (q : Quantifier) (it : Item) (f : ChangedFile), it.leaves = [] → ¬ Meets q it f) := by
  refine ⟨?_, meets_group_any, meets_group_all, fun q it f h => not_meets_of_leaves_eq_nil h q f⟩
  intro doc t h
  obtain ⟨entries, hroot, hrules⟩ := compile_eq_ok.1 h
  obtain ⟨filters, hentries, hden⟩ := exists_filters hrules
  refine ⟨entries, filters, hroot, hentries, names_of_denotes hden, ?_⟩
  intro q files n f
  exact ⟨matchFiles_of_denotes hden q files, find?_of_denotes hden q n f,
    matches?_eq_none_iff t q n f, matchingNames_of_denotes hden q f⟩

/-- The document `{src: "src/**"}` compiles, so its table has that meaning. -/
theorem table_meaning_at_src :
    ∃ t, compile globCompiler ⟨#[.scalar (.str "src/**"), .map [(.str "src", 0)]], 1⟩ = .ok t ∧
      ∃ (entries : List (Value × Nat)) (filters : List (String × Item)),
        Graph.cell ⟨#[.scalar (.str "src/**"), .map [(.str "src", 0)]], 1⟩ 1 = .map entries ∧
        List.Forall₂ (fun e fl => e.1 = .str fl.1 ∧
          decode ⟨#[.scalar (.str "src/**"), .map [(.str "src", 0)]], 1⟩ e.2 = .ok fl.2)
          entries filters ∧
        t.names = filters.map Prod.fst ∧
        ∀ (q : Quantifier) (files : List ChangedFile) (n : String) (f : ChangedFile),
          t.matchFiles q files =
            filters.map (fun fl => (fl.1, files.filter fun g => decide (Meets q fl.2 g))) ∧
          t.matches? q n f = (filters.find? (·.1 == n)).map (fun fl => decide (Meets q fl.2 f)) ∧
          (t.matches? q n f = none ↔ n ∉ t.names) ∧
          t.matchingNames q f = (filters.filter fun fl => decide (Meets q fl.2 f)).map Prod.fst := by
  have hok : (compile globCompiler ⟨#[.scalar (.str "src/**"), .map [(.str "src", 0)]], 1⟩).isOk =
      true := by
    decide +kernel
  cases h : compile globCompiler ⟨#[.scalar (.str "src/**"), .map [(.str "src", 0)]], 1⟩ with
  | error e =>
    rw [h] at hok
    cases hok
  | ok t => exact ⟨t, rfl, compiled_table_meaning.1 _ t h⟩

end ChangeFilter.Rules
