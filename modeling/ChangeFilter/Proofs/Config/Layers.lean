import ChangeFilter.Config

/-! # Reading a key against the merged configuration

`Config.get` reads a dotted key from the highest layer that holds a value
other than null there. `Config.merged` lays the layers over each other from
the lowest: a mapping over a mapping is merged key by key, anything else
replaces what was there. The two agree at a key when, in every layer,

* on the way to the key there is nothing or a mapping, holding the next key
  at most once;
* the value at the key itself, if any, is neither null nor a mapping.

Without the first, a layer's plain value on the way (`logging: verbose`)
replaces the whole subtree in the merge while `get` looks past it; without
the second, a null hides a lower layer's value in the merge but not from
`get`, and two mappings merge where `get` takes the upper one.

Main statements:
* `valueOn_deepMerge` — one merge step at a path: the upper layer's value if
  it has one, else the lower one's;
* `valueOn_foldl_deepMerge` — the same for a stack of layers;
* `get_eq_merged` — `Config.get` reads the merged configuration. -/

namespace ChangeFilter

/-! ## Text keys -/

theorem splitOnAux_ne_nil (s sep : String) (b i j : String.Pos.Raw) (r : List String) :
    String.splitOnAux s sep b i j r ≠ [] := by
  fun_induction String.splitOnAux s sep b i j r <;> simp_all

theorem sameKey_str_right {x : Value} {p : String} :
    Value.sameKey x (.str p) = true ↔ x = .str p := by
  cases x <;> simp [Value.sameKey, Value.numeric?]

theorem sameKey_str_left {x : Value} {p : String} :
    Value.sameKey (.str p) x = true ↔ x = .str p := by
  cases x
  case str a =>
    simp only [Value.sameKey, beq_iff_eq, Value.str.injEq]
    exact eq_comm
  all_goals simp [Value.sameKey, Value.numeric?]

theorem sameKey_str_comm (x : Value) (p : String) :
    Value.sameKey (.str p) x = Value.sameKey x (.str p) :=
  Bool.eq_iff_iff.mpr (sameKey_str_left.trans sameKey_str_right.symm)

namespace Mapping

/-- How many entries of `m` have the text key `p`. -/
def keyCount (m : Mapping) (p : String) : Nat :=
  (m.filter fun e => Value.sameKey e.1 (.str p)).length

/-- The value at a path of keys. -/
def valueOn (m : Mapping) (path : List String) : Option Value :=
  atPath.go (.map m) path

theorem valueOn_cons (m : Mapping) (p : String) (rest : List String) :
    m.valueOn (p :: rest) = (m.valueAt (.str p)).bind fun v => atPath.go v rest := by
  unfold valueOn
  rw [atPath.go]
  cases m.valueAt (.str p) <;> rfl

theorem valueAt_cons (k v : Value) (m : Mapping) (p : String) :
    valueAt ((k, v) :: m) (.str p) = if Value.sameKey k (.str p) then some v else valueAt m (.str p) := by
  unfold valueAt
  rw [List.find?_cons]
  split <;> simp_all

theorem keyCount_cons (k v : Value) (m : Mapping) (p : String) :
    keyCount ((k, v) :: m) p = (if Value.sameKey k (.str p) then 1 else 0) + keyCount m p := by
  unfold keyCount
  rw [List.filter_cons]
  split <;> simp_all [Nat.add_comm]

theorem valueAt_eq_none_of_keyCount {m : Mapping} {p : String} (h : keyCount m p = 0) :
    valueAt m (.str p) = none := by
  unfold keyCount at h
  unfold valueAt
  rw [List.length_eq_zero_iff, List.filter_eq_nil_iff] at h
  simp only [Option.map_eq_none_iff, List.find?_eq_none]
  intro e he
  simpa using h e he

/-- Rewriting values in place keeps where each key is found. -/
theorem valueAt_map_of_keys (m : Mapping) {f : Value × Value → Value × Value}
    (hf : ∀ e, (f e).1 = e.1) (p : String) :
    valueAt (m.map f) (.str p) =
      (m.find? fun e => Value.sameKey e.1 (.str p)).map fun e => (f e).2 := by
  unfold valueAt
  rw [List.find?_map, Option.map_map]
  congr 2
  funext e
  simp [hf]

/-- Writing under a key changes the value under a text key exactly when the
    two keys are the same. -/
theorem valueAt_insertEntry (m : Mapping) (k v : Value) (p : String) :
    valueAt (Value.insertEntry m k v) (.str p) =
      if Value.sameKey k (.str p) then some v else valueAt m (.str p) := by
  unfold Value.insertEntry
  split
  · -- the entries under the key take the value in place; their keys stay
    rename_i hany
    rw [valueAt_map_of_keys m (fun e => by split <;> rfl)]
    cases hfound : m.find? (fun e => Value.sameKey e.1 (.str p)) with
    | none =>
      -- nothing under `p`, while something is under `k`: the keys differ
      have hk : Value.sameKey k (.str p) = false := by
        rw [Bool.eq_false_iff]
        intro hk
        obtain ⟨e, he, hek⟩ := List.any_eq_true.mp hany
        rw [sameKey_str_right.mp hk] at hek
        exact absurd hek (List.find?_eq_none.mp hfound e he)
      simp [valueAt, hfound, hk]
    | some e =>
      have hq := List.find?_some hfound
      have hep : e.1 = .str p := sameKey_str_right.mp hq
      simp only [valueAt, hfound, Option.map_some, hep, sameKey_str_comm]
      split <;> rfl
  · -- no entry under the key: it is added at the end
    rename_i hany
    unfold valueAt
    rw [List.find?_append]
    split
    · rename_i hk
      have hnone : m.find? (fun e => Value.sameKey e.1 (.str p)) = none := by
        rw [List.find?_eq_none]
        intro e he hep
        rw [sameKey_str_right.mp hk] at hany
        exact hany (List.any_eq_true.mpr ⟨e, he, hep⟩)
      simp [hnone, hk]
    · rename_i hk
      simp [hk]

/-! ## Paths through a layer -/

/-- Along `path`, the value under every key but the last is absent or a
    mapping. -/
def MapsAlong (m : Mapping) : List String → Prop
  | [] | [_] => True
  | p :: rest@(_ :: _) =>
    match m.valueAt (.str p) with
    | none => True
    | some (.map es) => MapsAlong es rest
    | some _ => False

/-- Along `path`, the mapping at every step holds the step's key at most
    once. -/
def KeyOnceAlong (m : Mapping) : List String → Prop
  | [] => True
  | [p] => m.keyCount p ≤ 1
  | p :: rest@(_ :: _) =>
    m.keyCount p ≤ 1 ∧
      match m.valueAt (.str p) with
      | some (.map es) => KeyOnceAlong es rest
      | _ => True

section Along

variable {m es : Mapping} {p q : String} {rest : List String}

theorem valueOn_single (m : Mapping) (p : String) : m.valueOn [p] = m.valueAt (.str p) := by
  rw [valueOn_cons]
  cases m.valueAt (.str p) <;> rfl

theorem valueOn_of_none (h : m.valueAt (.str p) = none) : m.valueOn (p :: rest) = none := by
  rw [valueOn_cons, h]
  rfl

theorem valueOn_of_map (h : m.valueAt (.str p) = some (.map es)) :
    m.valueOn (p :: rest) = es.valueOn rest := by
  rw [valueOn_cons, h]
  rfl

theorem mapsAlong_of_none (h : m.valueAt (.str p) = none) : m.MapsAlong (p :: q :: rest) := by
  simp only [MapsAlong, h]

theorem map_of_mapsAlong {v : Value} (hm : m.MapsAlong (p :: q :: rest))
    (h : m.valueAt (.str p) = some v) : ∃ es : Mapping, v = .map es ∧ es.MapsAlong (q :: rest) := by
  unfold MapsAlong at hm
  rw [h] at hm
  split at hm
  · rename_i hv
    cases hv
  · rename_i es hv
    cases hv
    exact ⟨es, rfl, hm⟩
  · exact hm.elim

theorem KeyOnceAlong.count (h : m.KeyOnceAlong (p :: rest)) : m.keyCount p ≤ 1 := by
  cases rest with
  | nil =>
    unfold KeyOnceAlong at h
    exact h
  | cons q rest =>
    unfold KeyOnceAlong at h
    exact h.1

theorem KeyOnceAlong.next (h : m.KeyOnceAlong (p :: q :: rest))
    (hm : m.valueAt (.str p) = some (.map es)) : es.KeyOnceAlong (q :: rest) := by
  unfold KeyOnceAlong at h
  have h2 := h.2
  rw [hm] at h2
  exact h2

end Along

end Mapping

/-! ## One merge step -/

/-- What a merge step leaves under a key, from what was there and what is
    laid on it: a mapping over a mapping merges, anything else replaces. -/
def overlay : Option Value → Value → Value
  | some (.map b), .map o => .map (deepMerge b o)
  | _, v => v

theorem overlay_maps (b o : Mapping) : overlay (some (.map b)) (.map o) = .map (deepMerge b o) :=
  rfl

theorem overlay_of_not_maps {x : Option Value} {v : Value}
    (h : ∀ b o, x = some (.map b) → v = .map o → False) : overlay x v = v := by
  unfold overlay
  split
  · rename_i b o
    exact absurd rfl (h b o rfl)
  · rfl

open Mapping in
/-- A merge step at a text key the upper mapping holds at most once: the
    upper value laid over the lower one, or the lower one when the upper
    mapping lacks the key. -/
theorem valueAt_deepMerge (base upper : Mapping) (p : String) (hcount : upper.keyCount p ≤ 1) :
    valueAt (deepMerge base upper) (.str p) =
      match valueAt upper (.str p) with
      | none => valueAt base (.str p)
      | some v => some (overlay (valueAt base (.str p)) v) := by
  unfold deepMerge
  induction upper generalizing base with
  | nil => simp [deepMerge.go, valueAt]
  | cons e rest ih =>
    obtain ⟨k, v⟩ := e
    unfold deepMerge.go
    dsimp only
    rw [keyCount_cons] at hcount
    have hrest : keyCount rest p ≤ 1 := by split at hcount <;> omega
    rw [ih _ hrest, valueAt_insertEntry, valueAt_cons]
    by_cases hk : Value.sameKey k (.str p) = true
    · -- the entry is the upper mapping's only one under `p`
      have hnone : valueAt rest (.str p) = none := by
        apply valueAt_eq_none_of_keyCount
        rw [if_pos hk] at hcount
        omega
      obtain rfl := sameKey_str_right.mp hk
      simp only [hnone, if_pos hk, Option.some.injEq]
      split
      · rename_i b o hb
        rw [hb, overlay_maps]
        rfl
      · rename_i hnot
        exact (overlay_of_not_maps hnot).symm
    · simp only [if_neg hk]

namespace Mapping

/-- A merge step keeps the values on the way to a path absent or mappings. -/
theorem mapsAlong_deepMerge {acc L : Mapping} {path : List String} (hacc : acc.MapsAlong path)
    (hmaps : L.MapsAlong path) (honce : L.KeyOnceAlong path) :
    (deepMerge acc L).MapsAlong path := by
  induction path generalizing acc L with
  | nil => simp only [MapsAlong]
  | cons p rest ih =>
    cases rest with
    | nil => simp only [MapsAlong]
    | cons q rest =>
      rw [MapsAlong, valueAt_deepMerge acc L p honce.count]
      cases hL : L.valueAt (.str p) with
      | none =>
        -- the lower value stays, and it continued as a mapping already
        unfold MapsAlong at hacc
        exact hacc
      | some w =>
        obtain ⟨o, rfl, ho⟩ := map_of_mapsAlong hmaps hL
        cases hA : acc.valueAt (.str p) with
        | none => exact ho
        | some u =>
          obtain ⟨b, rfl, hb⟩ := map_of_mapsAlong hacc hA
          dsimp only
          rw [overlay_maps]
          exact ih hb ho (honce.next hL)

/-- One merge step at a path: the upper layer's value when it has one, else
    the lower one's, when the upper layer holds no mapping at the path. -/
theorem valueOn_deepMerge {acc L : Mapping} {path : List String} (hpath : path ≠ [])
    (hacc : acc.MapsAlong path) (hmaps : L.MapsAlong path) (honce : L.KeyOnceAlong path)
    (hleaf : ∀ v, L.valueOn path = some v → ∀ es, v ≠ .map es) :
    (deepMerge acc L).valueOn path = (L.valueOn path).or (acc.valueOn path) := by
  induction path generalizing acc L with
  | nil => exact absurd rfl hpath
  | cons p rest ih =>
    cases rest with
    | nil =>
      -- the last key: a plain upper value replaces the lower one
      simp only [valueOn_single] at hleaf ⊢
      rw [valueAt_deepMerge acc L p honce.count]
      cases hL : L.valueAt (.str p) with
      | none => rfl
      | some w =>
        dsimp only
        rw [overlay_of_not_maps fun b o _ hw => hleaf w hL o hw]
        rfl
    | cons q rest =>
      rw [valueOn_cons, valueAt_deepMerge acc L p honce.count]
      cases hL : L.valueAt (.str p) with
      | none =>
        rw [valueOn_of_none hL, valueOn_cons]
        rfl
      | some w =>
        obtain ⟨o, rfl, ho⟩ := map_of_mapsAlong hmaps hL
        rw [valueOn_of_map hL] at hleaf ⊢
        cases hA : acc.valueAt (.str p) with
        | none =>
          rw [valueOn_of_none hA, Option.or_none]
          rfl
        | some u =>
          -- two mappings merge, and the path goes on inside them
          obtain ⟨b, rfl, hb⟩ := map_of_mapsAlong hacc hA
          dsimp only
          rw [valueOn_of_map hA, overlay_maps]
          exact ih (List.cons_ne_nil q rest) hb ho (honce.next hL) hleaf

/-- A layer that `Config.get` and the merge read alike at `path`: on the
    way, nothing or mappings that hold the next key once; at the end,
    nothing, or a value that is neither null nor a mapping. -/
structure ClearAt (m : Mapping) (path : List String) : Prop where
  maps : m.MapsAlong path
  once : m.KeyOnceAlong path
  leaf : ∀ v, m.valueOn path = some v → v ≠ .null ∧ ∀ es, v ≠ .map es

theorem mapsAlong_empty (path : List String) : MapsAlong [] path := by
  match path with
  | [] | [_] => simp only [MapsAlong]
  | _ :: _ :: _ => exact mapsAlong_of_none rfl

theorem valueOn_empty {path : List String} (hpath : path ≠ []) : valueOn [] path = none := by
  match path, hpath with
  | _ :: _, _ => exact valueOn_of_none rfl

/-- Layers laid one over another from the first: when every layer reads
    clearly at a path, the merge finds there the value of the last layer
    that has one, else what it started from. -/
theorem valueOn_foldl_deepMerge {σ : Type} (layer : σ → Mapping) {path : List String}
    (hpath : path ≠ []) :
    ∀ (ss : List σ) (acc : Mapping), (∀ s ∈ ss, (layer s).ClearAt path) → acc.MapsAlong path →
      (ss.foldl (fun acc s => deepMerge acc (layer s)) acc).valueOn path =
        (ss.reverse.findSome? fun s => (layer s).valueOn path).or (acc.valueOn path)
  | [], _, _, _ => rfl
  | s :: rest, acc, hclear, hacc => by
    have hs := hclear s (List.mem_cons_self ..)
    have hstep : (deepMerge acc (layer s)).MapsAlong path := mapsAlong_deepMerge hacc hs.maps hs.once
    rw [List.foldl_cons,
      valueOn_foldl_deepMerge layer hpath rest _ (fun t ht => hclear t (List.mem_cons_of_mem s ht)) hstep,
      valueOn_deepMerge hpath hacc hs.maps hs.once fun v hv => (hs.leaf v hv).2,
      List.reverse_cons, List.findSome?_append, List.findSome?_singleton, Option.or_assoc]

end Mapping

theorem splitOn_ne_nil (key sep : String) : key.splitOn sep ≠ [] := by
  unfold String.splitOn
  split
  · exact List.cons_ne_nil _ _
  · exact splitOnAux_ne_nil _ _ _ _ _ _

theorem findSome?_congr_fun {σ β : Type} {l : List σ} {f g : σ → Option β} (h : ∀ s, f s = g s) :
    l.findSome? f = l.findSome? g := by
  rw [funext h]

namespace Config

/-- Where no layer holds null at a key, `Config.get` takes the value of the
    highest layer that holds one. -/
theorem get_of_no_null (c : Config) (key : String) (fallback : Value)
    (hnull : ∀ s, (c.layer s).atPath key ≠ some .null) :
    c.get key fallback = (descending.findSome? fun s => (c.layer s).atPath key).getD fallback := by
  unfold get
  -- with no null to pass over, each layer's reading is its value at the key
  rw [@findSome?_congr_fun _ _ descending _ (fun s => (c.layer s).atPath key) ?skip]
  · cases descending.findSome? fun s => (c.layer s).atPath key <;> rfl
  · intro s
    split
    · rename_i h
      exact absurd h (hnull s)
    · rename_i h
      exact h.symm
    · rename_i v _ _ h
      exact h.symm

/-- The two readings of a key agree: where every layer reads clearly at the
    key, `Config.get` finds the value the merged configuration holds there,
    or the fallback when neither has one. -/
theorem get_eq_merged (c : Config) (key : String) (fallback : Value)
    (hclear : ∀ s, (c.layer s).ClearAt (key.splitOn ".")) :
    c.get key fallback = (c.merged.atPath key).getD fallback := by
  have hpath := splitOn_ne_nil key "."
  have hnull : ∀ s, (c.layer s).atPath key ≠ some .null := fun s h =>
    ((hclear s).leaf _ h).1 rfl
  -- the merge is a fold from the empty mapping over the layers, lowest first
  have hmerged : c.merged.atPath key = descending.findSome? fun s => (c.layer s).atPath key := by
    show (descending.reverse.foldl (fun acc s => deepMerge acc (c.layer s)) []).valueOn _ = _
    rw [Mapping.valueOn_foldl_deepMerge c.layer hpath _ _ (fun s _ => hclear s)
      (Mapping.mapsAlong_empty _), List.reverse_reverse, Mapping.valueOn_empty hpath, Option.or_none]
    rfl
  rw [get_of_no_null c key fallback hnull, hmerged]

theorem get_eq_merged_at_logging_level :
    let c : Config := ⟨defaultConfig, [(.str "logging", .map [(.str "level", .str "DEBUG")])], [],
      [(.str "logging", .map [(.str "file", .str "x.log")])]⟩
    (∀ s, (c.layer s).ClearAt ("logging.level".splitOn ".")) ∧
      c.get "logging.level" (.str "INFO") = (c.merged.atPath "logging.level").getD (.str "INFO") := by
  intro c
  have hsplit : "logging.level".splitOn "." = ["logging", "level"] := by
    rw [String.splitOn]
    simp +decide only [ite_false]
    repeat (rw [String.splitOnAux]; simp +decide only [ite_false, ite_true])
  have hclear : ∀ s, (c.layer s).ClearAt ("logging.level".splitOn ".") := by
    rw [hsplit]
    intro s
    cases s
    all_goals
      refine ⟨?_, ?_, ?_⟩
      · simp [c, Mapping.MapsAlong, Mapping.valueAt, defaultConfig, Value.sameKey, Config.layer]
      · simp [c, Mapping.KeyOnceAlong, Mapping.keyCount, Mapping.valueAt, defaultConfig,
          Value.sameKey, Config.layer]
      · simp [c, Mapping.valueOn, Mapping.atPath.go, Mapping.valueAt, defaultConfig, Value.sameKey,
          Config.layer]
  exact ⟨hclear, get_eq_merged c _ _ hclear⟩

end Config

end ChangeFilter
