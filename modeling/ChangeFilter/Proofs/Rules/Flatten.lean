import ChangeFilter.Proofs.Rules.Refusal

/-! # Rule cells: flattening into predicates

    A rule cell is a tree of sequences and status mappings over pattern
    texts. Its leaves, read from the document depth first and left to right,
    are the patterns with the status set of the mapping key above them (none
    for a bare pattern). A sequence contributes the leaves of its items in
    order, an empty one none; a mapping entry contributes one leaf per
    pattern, all sharing the statuses of its key.

    `Flattens` states this reading on the cells themselves, apart from the
    rule type the reader builds. Compiling a cell that reads as a rule gives
    one predicate per leaf, in that order: each keeps its leaf's pattern and
    statuses, and its test is what the pattern compiler gives for the
    pattern. When the compiler refuses a pattern, the error is that of the
    first refused leaf.

    Main statements:
    * `flattens_of_decodes` — the leaves of a decoded rule follow the cells;
    * `Flattens.unique` — a cell has one leaf sequence;
    * `compiled_predicates_follow_leaves` — compiling a cell that decodes. -/

namespace ChangeFilter.Rules

variable {doc : Graph}

/-! ## Leaves read from the cells -/

/-- The leaves of a mapping entry: one per pattern below its status spec. -/
inductive EntryLeaves (doc : Graph) : Value × Nat → List (List Status × String) → Prop
  | text {spec : String} {m : Nat} {p : String} :
      doc.cell m = .scalar (.str p) → EntryLeaves doc (.str spec, m) [(specStatuses spec, p)]
  | list {spec : String} {m : Nat} {ms : List Nat} {ps : List String} :
      doc.cell m = .seq ms → List.Forall₂ (fun m' p => doc.cell m' = .scalar (.str p)) ms ps →
      EntryLeaves doc (.str spec, m) (ps.map (specStatuses spec, ·))

mutual
/-- The leaves of a rule node, depth first from the left. -/
inductive Flattens (doc : Graph) : Nat → List (List Status × String) → Prop
  | pattern {n : Nat} {s : String} : doc.cell n = .scalar (.str s) → Flattens doc n [([], s)]
  | seq {n : Nat} {items : List Nat} {leaves : List (List Status × String)} :
      doc.cell n = .seq items → FlattensAll doc items leaves → Flattens doc n leaves
  | map {n : Nat} {entries : List (Value × Nat)} {lss : List (List (List Status × String))} :
      doc.cell n = .map entries → List.Forall₂ (EntryLeaves doc) entries lss →
      Flattens doc n lss.flatten

/-- The leaves of rule nodes in order, one after the other. -/
inductive FlattensAll (doc : Graph) : List Nat → List (List Status × String) → Prop
  | nil : FlattensAll doc [] []
  | cons {m : Nat} {ms : List Nat} {l ls : List (List Status × String)} :
      Flattens doc m l → FlattensAll doc ms ls → FlattensAll doc (m :: ms) (l ++ ls)
end

theorem leavesAll_eq_flatten : ∀ its : List Item, Item.leaves.leavesAll its = (its.map Item.leaves).flatten
  | [] => rfl
  | it :: its => by rw [Item.leaves.leavesAll, leavesAll_eq_flatten its, List.map_cons, List.flatten_cons]

theorem entryLeaves_of_entryDecodes {e : Value × Nat} {it : Item} :
    EntryDecodes doc e it → EntryLeaves doc e it.leaves
  | .text hc _ _ => by
    rw [Item.leaves, List.map_singleton]
    exact .text hc
  | .list hc _ hps => by
    rw [Item.leaves]
    exact .list hc (hps.imp fun _ _ h => h.1)

mutual
/-- The rule a node decodes to has the node's leaves. -/
theorem flattens_of_decodes {opn : List Nat} {n : Nat} {it : Item} :
    Decodes doc opn n it → Flattens doc n it.leaves
  | .pattern hc _ => by
    rw [Item.leaves]
    exact .pattern hc
  | .seq hc _ hall => by
    rw [Item.leaves]
    exact .seq hc (flattensAll_of_decodesAll hall)
  | .map hc hall => by
    rw [Item.leaves, leavesAll_eq_flatten]
    exact .map hc (List.forall₂_map_right_iff.2 (hall.imp fun _ _ h => entryLeaves_of_entryDecodes h))

theorem flattensAll_of_decodesAll {opn items : List Nat} {its : List Item} :
    DecodesAll doc opn items its → FlattensAll doc items (Item.leaves.leavesAll its)
  | .nil => .nil
  | .cons hd hrest => by
    rw [Item.leaves.leavesAll]
    exact .cons (flattens_of_decodes hd) (flattensAll_of_decodesAll hrest)
end

/-! ## One leaf sequence per node -/

/-- A list of cells has at most one list of texts. -/
theorem forall₂_texts_unique :
    ∀ {ms : List Nat} {ps₁ ps₂ : List String},
      List.Forall₂ (fun m p => doc.cell m = .scalar (.str p)) ms ps₁ →
      List.Forall₂ (fun m p => doc.cell m = .scalar (.str p)) ms ps₂ → ps₁ = ps₂
  | _, _, _, .nil, .nil => rfl
  | _, _, _, .cons h₁ r₁, .cons h₂ r₂ => by
    rw [h₁] at h₂
    cases h₂
    rw [forall₂_texts_unique r₁ r₂]

theorem EntryLeaves.unique {e : Value × Nat} {l₁ l₂ : List (List Status × String)} :
    EntryLeaves doc e l₁ → EntryLeaves doc e l₂ → l₁ = l₂
  | .text h₁, .text h₂ => by
    rw [h₁] at h₂
    cases h₂
    rfl
  | .text h₁, .list h₂ _ => by
    rw [h₁] at h₂
    cases h₂
  | .list h₁ _, .text h₂ => by
    rw [h₁] at h₂
    cases h₂
  | .list h₁ p₁, .list h₂ p₂ => by
    rw [h₁] at h₂
    cases h₂
    rw [forall₂_texts_unique p₁ p₂]

/-- The entries of a mapping have one list of leaf lists. -/
theorem forall₂_entryLeaves_unique :
    ∀ {entries : List (Value × Nat)} {lss₁ lss₂ : List (List (List Status × String))},
      List.Forall₂ (EntryLeaves doc) entries lss₁ → List.Forall₂ (EntryLeaves doc) entries lss₂ →
      lss₁ = lss₂
  | _, _, _, .nil, .nil => rfl
  | _, _, _, .cons h₁ r₁, .cons h₂ r₂ => by
    rw [EntryLeaves.unique h₁ h₂, forall₂_entryLeaves_unique r₁ r₂]

mutual
/-- The leaves of a node are determined by the cells: the three shapes of a
    node exclude each other, and each determines its leaves from those below. -/
theorem Flattens.unique {n : Nat} {l₁ l₂ : List (List Status × String)} :
    Flattens doc n l₁ → Flattens doc n l₂ → l₁ = l₂
  | .pattern h₁, .pattern h₂ => by
    rw [h₁] at h₂
    cases h₂
    rfl
  | .pattern h₁, .seq h₂ _ | .pattern h₁, .map h₂ _ => by
    rw [h₁] at h₂
    cases h₂
  | .seq h₁ _, .pattern h₂ | .seq h₁ _, .map h₂ _ => by
    rw [h₁] at h₂
    cases h₂
  | .seq h₁ a₁, .seq h₂ a₂ => by
    rw [h₁] at h₂
    cases h₂
    exact FlattensAll.unique a₁ a₂
  | .map h₁ _, .pattern h₂ | .map h₁ _, .seq h₂ _ => by
    rw [h₁] at h₂
    cases h₂
  | .map h₁ e₁, .map h₂ e₂ => by
    rw [h₁] at h₂
    cases h₂
    rw [forall₂_entryLeaves_unique e₁ e₂]

theorem FlattensAll.unique {ms : List Nat} {l₁ l₂ : List (List Status × String)} :
    FlattensAll doc ms l₁ → FlattensAll doc ms l₂ → l₁ = l₂
  | .nil, .nil => rfl
  | .cons f₁ r₁, .cons f₂ r₂ => by
    rw [Flattens.unique f₁ f₂, FlattensAll.unique r₁ r₂]
end

/-! ## Compiling the leaves -/

/-- A predicate made from a leaf: it keeps the leaf's pattern and statuses,
    and its test is what the compiler gives for the pattern. -/
def MadeFrom (g : PatternCompiler) (leaf : List Status × String) (pred : Predicate) : Prop :=
  pred.pattern = leaf.2 ∧ pred.statuses = leaf.1 ∧ g leaf.2 = .ok pred.test

variable {g : PatternCompiler}

theorem compiledLeaf_eq_ok_iff (statuses : List Status) (p : String) (pred : Predicate) :
    (do let test ← g p
        pure ({ pattern := p, statuses, test } : Predicate) : Except FormatError Predicate) =
      .ok pred ↔ MadeFrom g (statuses, p) pred := by
  cases hg : g p with
  | error e => simp [bind, Except.bind, MadeFrom, hg]
  | ok test =>
    simp only [bind, Except.bind, pure, Except.pure, Except.ok.injEq, MadeFrom, hg]
    constructor
    · rintro rfl
      exact ⟨rfl, rfl, rfl⟩
    · rintro ⟨hp, hs, rfl⟩
      cases pred
      simp_all

/-- A cell that decodes compiles to one predicate made from each leaf of its
    rule, in order. -/
theorem compileItem_eq_ok_iff {n : Nat} {it : Item} (hdec : decode doc n = .ok it)
    (preds : List Predicate) :
    compileItem g doc n = .ok preds ↔ List.Forall₂ (MadeFrom g) it.leaves preds := by
  unfold compileItem
  rw [hdec]
  simp only [bind, Except.bind]
  rw [mapError_eq_ok, mapM_eq_ok]
  constructor
  · refine fun h => h.imp fun leaf pred hlp => ?_
    obtain ⟨statuses, p⟩ := leaf
    exact (compiledLeaf_eq_ok_iff statuses p pred).1 hlp
  · refine fun h => h.imp fun leaf pred hlp => ?_
    obtain ⟨statuses, p⟩ := leaf
    exact (compiledLeaf_eq_ok_iff statuses p pred).2 hlp

/-- Flattening a cell into predicates. For a cell that decodes to a rule, its
    leaf sequence read from the cells is the rule's, and for every pattern
    compiler the cell compiles to one predicate per leaf in that order, each
    keeping its leaf's pattern and statuses, with the compiler's test for
    the pattern; the compile fails exactly when the compiler refuses a leaf,
    with the error of the first one refused. -/
theorem compiled_predicates_follow_leaves {n : Nat} {it : Item} (hdec : decode doc n = .ok it) :
    (∀ l, Flattens doc n l ↔ l = it.leaves) ∧
      (∀ (g : PatternCompiler) preds,
        compileItem g doc n = .ok preds ↔ List.Forall₂ (MadeFrom g) it.leaves preds) ∧
      (∀ (g : PatternCompiler) err, compileItem g doc n = .error err ↔
        ∃ pre leaf post e, it.leaves = pre ++ leaf :: post ∧ (∀ l ∈ pre, ∃ test, g l.2 = .ok test) ∧
          g leaf.2 = .error e ∧ err = .format e) := by
  have hleaves : Flattens doc n it.leaves :=
    flattens_of_decodes (((decode_grammar doc n).1 it).1 hdec)
  refine ⟨fun l => ⟨fun h => h.unique hleaves, fun h => h ▸ hleaves⟩,
    fun g preds => compileItem_eq_ok_iff hdec preds, fun g err => ?_⟩
  rw [compileItem_eq_error_iff, hdec]
  simp only [reduceCtorEq, false_or, Except.ok.injEq, exists_eq_left']

/-- A nested rule `[[], "a/**", {"": ["b/**", "a/**"]}, "a/**"]`: the empty
    sequence adds no leaf, the mapping one per pattern, and the repeated
    pattern one each time it stands. -/
theorem nested_rule_flattens :
    decode ⟨#[.scalar (.str "a/**"), .scalar (.str "b/**"), .seq [1, 0], .map [(.str "", 2)],
        .seq [], .seq [4, 0, 3, 0]], 5⟩ 5 =
      .ok (.group [.group [], .pattern "a/**", .group [.statusPatterns [] ["b/**", "a/**"]],
        .pattern "a/**"]) ∧
    ∀ (g : PatternCompiler) preds,
      compileItem g ⟨#[.scalar (.str "a/**"), .scalar (.str "b/**"), .seq [1, 0],
          .map [(.str "", 2)], .seq [], .seq [4, 0, 3, 0]], 5⟩ 5 = .ok preds ↔
        List.Forall₂ (MadeFrom g) [([], "a/**"), ([], "b/**"), ([], "a/**"), ([], "a/**")] preds := by
  obtain ⟨hspec, hstat⟩ := specOk_empty
  have ha : PatternOk "a/**" := ⟨by decide, by decide⟩
  have hb : PatternOk "b/**" := ⟨by decide, by decide⟩
  have hd : Decodes ⟨#[.scalar (.str "a/**"), .scalar (.str "b/**"), .seq [1, 0],
      .map [(.str "", 2)], .seq [], .seq [4, 0, 3, 0]], 5⟩ [] 5
      (.group [.group [], .pattern "a/**",
        .group [.statusPatterns (specStatuses "") ["b/**", "a/**"]], .pattern "a/**"]) :=
    .seq rfl (by simp) (.cons (.seq rfl (by simp) .nil) (.cons (.pattern rfl ha)
      (.cons (.map rfl (.cons (.list rfl hspec (.cons ⟨rfl, hb⟩ (.cons ⟨rfl, ha⟩ .nil))) .nil))
        (.cons (.pattern rfl ha) .nil))))
  rw [hstat] at hd
  have hdec := ((decode_grammar _ 5).1 _).2 hd
  exact ⟨hdec, (compiled_predicates_follow_leaves hdec).2.1⟩

end ChangeFilter.Rules
