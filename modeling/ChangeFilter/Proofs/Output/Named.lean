import Mathlib
import ChangeFilter.Run.Workspace
import ChangeFilter.Output.Export

/-! # Named outputs of a match

    For each filter, in order, a match writes the filter's flag `name`, its
    count `name_count` and, unless the list format is `none`, its file list
    `name_files`; then it writes `changes`, the JSON list of the filters that
    matched, unless a filter is itself named `changes`. The outputs are these
    writes applied in order to an empty table: a key written again keeps the
    place of its first write and takes the value of its last.

    So the documented law, one flag, count and file list per filter, holds
    when no two writes share a key. Otherwise a later write silently wins,
    and no name collision is reported: a filter named `a_count` after a
    filter `a` replaces the count of `a` with its own flag.

    Main statements:
    * `quiet_buildOutputs` — building the outputs changes only the log, and
      gives the writes applied in order;
    * `keys_putAll`, `lookup_putAll`, `putAll_eq_self` — the keys in order of
      first write, each with its last value, and the writes themselves when no
      key repeats;
    * `outputs_of_match` — all of these, for every match and list format;
    * `count_output_overwritten` — a filter named like another plus `_count`
      replaces that filter's count. -/

namespace ChangeFilter

/-! ## Computations that only log -/

section Quiet

variable {α β : Type}

/-- A computation of a run that gives `a` and changes nothing but the log. -/
def Quiet (x : RunM α) (a : α) : Prop :=
  ∀ w : Workspace, ∃ log, x.run.run w = (.ok a, { w with log := log })

theorem quiet_pure (a : α) : Quiet (pure a : RunM α) a :=
  fun w => ⟨w.log, rfl⟩

theorem Quiet.of_eq {x : RunM α} {a b : α} (h : Quiet x a) (e : a = b) : Quiet x b :=
  e ▸ h

theorem Quiet.bind {x : RunM α} {f : α → RunM β} {a : α} {b : β} (hx : Quiet x a)
    (hf : Quiet (f a) b) : Quiet (x >>= f) b := by
  intro w
  obtain ⟨log, hlog⟩ := hx w
  obtain ⟨log', hlog'⟩ := hf { w with log := log }
  refine ⟨log', ?_⟩
  simp only [ExceptT.run_bind, StateT.run_bind, hlog]
  exact hlog'

theorem Quiet.tryCatch {x : RunM α} {a : α} (hx : Quiet x a) (handler : Failure → RunM α) :
    Quiet (tryCatch x handler) a := by
  intro w
  obtain ⟨log, hlog⟩ := hx w
  refine ⟨log, ?_⟩
  simp only [ExceptT.run_tryCatch, StateT.run_bind, hlog]
  rfl

theorem quiet_updateLog (f : Log → Log) : Quiet (MonadLog.updateLog f : RunM Unit) () :=
  fun w => ⟨f w.log, rfl⟩

theorem quiet_logAt (level : Level) (msg : String) (extra : Context) :
    Quiet (logAt level msg extra : RunM Unit) () :=
  quiet_updateLog _

/-- A group only logs when its body only logs: its failure handler is never
    reached. -/
theorem Quiet.grouped {body : RunM α} {a : α} (title : String) (h : Quiet body a) :
    Quiet (grouped title body) a :=
  (quiet_updateLog _).bind <|
    Quiet.tryCatch (h.bind ((quiet_updateLog _).bind (quiet_pure a))) _

/-- A loop whose body only logs and always goes on is the fold of the body's
    step. -/
theorem Quiet.forIn {σ γ : Type} {f : γ → σ → RunM (ForInStep σ)} (g : σ → γ → σ)
    (h : ∀ x s, Quiet (f x s) (.yield (g s x))) :
    ∀ (l : List γ) (s : σ), Quiet (forIn l s f) (l.foldl g s)
  | [], s => quiet_pure s
  | x :: l, s => by
    rw [List.forIn_cons]
    exact (h x s).bind (Quiet.forIn g h l (g s x))

theorem quiet_forM {γ : Type} {f : γ → RunM Unit} (h : ∀ x, Quiet (f x) ()) :
    ∀ l : List γ, Quiet (l.forM f) ()
  | [] => quiet_pure ()
  | x :: l => (h x).bind (quiet_forM h l)

end Quiet

namespace Output

/-! ## The writes of a match -/

/-- The outputs of one filter, in the order they are written: its flag, its
    count and, unless the format is `none`, its file list. -/
def filterWrites (name : String) (files : List ChangedFile) (fmt : ListFormat) :
    List (String × String) :=
  [(name, boolText !files.isEmpty), (name ++ "_count", toString files.length)] ++
    if fmt = .none then [] else [(name ++ "_files", render fmt (files.map (·.path)))]

/-- The filters that matched a file, in order. -/
def matchedNames (results : List (String × List ChangedFile)) : List String :=
  (results.filter (!·.2.isEmpty)).map (·.1)

/-- The aggregate output, unless a filter is named `changes`. -/
def changesWrites (results : List (String × List ChangedFile)) : List (String × String) :=
  if results.any (·.1 == changesOutput) then [] else
    [(changesOutput, render .json (matchedNames results))]

/-- Every output a match writes, in order. -/
def writes (results : List (String × List ChangedFile)) (fmt : ListFormat) :
    List (String × String) :=
  results.flatMap (fun r => filterWrites r.1 r.2 fmt) ++ changesWrites results

/-- Writes applied in order to a table of outputs. -/
def putAll (outs ws : List (String × String)) : List (String × String) :=
  ws.foldl (fun o w => putOutput o w.1 w.2) outs

@[simp] theorem putAll_nil (outs : List (String × String)) : putAll outs [] = outs := rfl

@[simp] theorem putAll_cons (outs : List (String × String)) (w : String × String)
    (ws : List (String × String)) : putAll outs (w :: ws) = putAll (putOutput outs w.1 w.2) ws :=
  rfl

theorem putAll_append (outs ws ws' : List (String × String)) :
    putAll outs (ws ++ ws') = putAll (putAll outs ws) ws' := by
  simp [putAll, List.foldl_append]

/-! ## One write -/

theorem any_key_eq_true {outs : List (String × String)} {k : String} :
    outs.any (·.1 == k) = true ↔ k ∈ outs.map Prod.fst := by
  simp

theorem lookup_cons_eq_ite (e : String × String) (es : List (String × String)) (a : String) :
    (e :: es).lookup a = if a = e.1 then some e.2 else es.lookup a := by
  obtain ⟨k, b⟩ := e
  rw [List.lookup_cons]
  by_cases h : a = k
  · rw [h, beq_self_eq_true, if_pos rfl]
  · rw [beq_false_of_ne h, if_neg h]

section Put

variable (outs : List (String × String)) (k v : String)

theorem keys_putOutput :
    (putOutput outs k v).map Prod.fst =
      if k ∈ outs.map Prod.fst then outs.map Prod.fst else outs.map Prod.fst ++ [k] := by
  unfold putOutput
  by_cases hk : k ∈ outs.map Prod.fst
  · -- a present key is rewritten in place, under its own name
    rw [if_pos (any_key_eq_true.2 hk), if_pos hk, List.map_map]
    refine List.map_congr_left fun e _ => ?_
    by_cases he : e.1 = k <;> simp [he]
  · rw [if_neg (mt any_key_eq_true.1 hk), if_neg hk, List.map_append]
    rfl

/-- A write leaves the value of every other key as it was. -/
theorem lookup_putOutput_ne {k' : String} (h : k' ≠ k) :
    (putOutput outs k v).lookup k' = outs.lookup k' := by
  unfold putOutput
  split
  · induction outs with
    | nil => rfl
    | cons e rest ih =>
      -- an entry keeps its key, and one of key `k'` is not rewritten
      have hkey : (if (e.1 == k) = true then (k, v) else e).1 = e.1 := by
        by_cases he : e.1 = k <;> simp [he]
      rw [List.map_cons, lookup_cons_eq_ite, lookup_cons_eq_ite, hkey]
      by_cases hk' : k' = e.1
      · have he : e.1 ≠ k := hk' ▸ h
        simp [hk', he]
      · simp only [hk', if_false]
        by_cases hrest : rest.any (·.1 == k) = true
        · exact ih hrest
        · -- no later entry has the key, so none is rewritten
          have hid : rest.map (fun e => if (e.1 == k) = true then (k, v) else e) = rest.map id :=
            List.map_congr_left fun e' he' => by
              have : e'.1 ≠ k := fun he => hrest (any_key_eq_true.2 (List.mem_map.2 ⟨e', he', he⟩))
              simp [this]
          rw [hid, List.map_id]
  · rw [List.lookup_append, List.lookup_singleton, beq_false_of_ne h]
    cases outs.lookup k' <;> rfl

/-- A write gives its key the written value. -/
theorem lookup_putOutput_self : (putOutput outs k v).lookup k = some v := by
  unfold putOutput
  split
  · next hany =>
    induction outs with
    | nil => simp at hany
    | cons e rest ih =>
      rw [List.map_cons, lookup_cons_eq_ite]
      by_cases he : e.1 = k
      · simp [he]
      · have hrest : rest.any (·.1 == k) = true := by simpa [he] using hany
        have hkept : (if (e.1 == k) = true then (k, v) else e) = e := if_neg (by simpa using he)
        rw [hkept, if_neg (Ne.symm he)]
        exact ih hrest
  · next hany =>
    have hnone : outs.lookup k = none := by
      rw [List.lookup_eq_none_iff]
      intro p hp
      rw [bne_iff_ne]
      intro hk
      exact hany (any_key_eq_true.2 (List.mem_map.2 ⟨p, hp, hk.symm⟩))
    rw [List.lookup_append, hnone]
    simp

theorem lookup_putOutput (k' : String) :
    (putOutput outs k v).lookup k' = if k' = k then some v else outs.lookup k' := by
  by_cases hk : k' = k
  · subst hk
    simp [lookup_putOutput_self]
  · simp [hk, lookup_putOutput_ne outs k v hk]

end Put

/-! ## Writes in order -/

/-- A table built by writes holds each key once, in the order of its first
    write. -/
theorem keys_putAll (ws : List (String × String)) :
    (putAll [] ws).map Prod.fst = (ws.map Prod.fst).eraseDups := by
  induction ws using List.reverseRecOn with
  | nil => rfl
  | append_singleton ws w ih =>
    rw [putAll_append, putAll_cons, putAll_nil, keys_putOutput, ih, List.map_append,
      List.eraseDups_append]
    by_cases hw : w.1 ∈ ws.map Prod.fst <;>
      simp [List.mem_eraseDups, hw, List.removeAll, List.eraseDups_cons]

/-- Each key of a table built by writes holds the value of its last write. -/
theorem lookup_putAll (ws : List (String × String)) (k : String) :
    (putAll [] ws).lookup k = ws.reverse.lookup k := by
  induction ws using List.reverseRecOn with
  | nil => rfl
  | append_singleton ws w ih =>
    rw [putAll_append, putAll_cons, putAll_nil, lookup_putOutput, ih, List.reverse_append,
      List.reverse_singleton, List.singleton_append, lookup_cons_eq_ite]

/-- Writes to distinct keys give the writes themselves. -/
theorem putAll_eq_self {ws : List (String × String)} (h : (ws.map Prod.fst).Nodup) :
    putAll [] ws = ws := by
  induction ws using List.reverseRecOn with
  | nil => rfl
  | append_singleton ws w ih =>
    rw [List.map_append, List.nodup_append] at h
    have hw : w.1 ∉ ws.map Prod.fst := fun hm => h.2.2 _ hm _ (List.mem_singleton_self _) rfl
    rw [putAll_append, putAll_cons, putAll_nil, ih h.1, putOutput,
      if_neg (mt any_key_eq_true.1 hw)]

/-! ## Building the outputs -/

theorem quiet_reportFilter (name : String) (files : List ChangedFile) :
    Quiet (reportFilter name files : RunM Unit) () := by
  unfold reportFilter
  refine Quiet.grouped _ ?_
  split
  · exact quiet_logAt _ _ _
  · exact (quiet_logAt _ _ _).bind (quiet_forM (fun _ => quiet_logAt _ _ _) files)

/-- One filter's turn of the output loop: its writes, and the filters that
    matched so far. -/
def outputStep (fmt : ListFormat) (s : List (String × String) × List String)
    (r : String × List ChangedFile) : List (String × String) × List String :=
  (putAll s.1 (filterWrites r.1 r.2 fmt), if r.2.isEmpty then s.2 else s.2 ++ [r.1])

theorem foldl_outputStep (fmt : ListFormat) :
    ∀ (results : List (String × List ChangedFile)) (outs : List (String × String))
      (matched : List String),
      results.foldl (outputStep fmt) (outs, matched) =
        (putAll outs (results.flatMap fun r => filterWrites r.1 r.2 fmt),
          matched ++ matchedNames results)
  | [], outs, matched => by simp [matchedNames]
  | (name, files) :: rest, outs, matched => by
    rw [List.foldl_cons, outputStep, foldl_outputStep fmt rest, List.flatMap_cons, putAll_append]
    cases h : files.isEmpty <;> simp [matchedNames, h]

/-- Building the outputs only logs, and gives the writes of the match applied
    in order. -/
theorem quiet_buildOutputs (results : List (String × List ChangedFile)) (fmt : ListFormat) :
    Quiet (buildOutputs results fmt : RunM _) (putAll [] (writes results fmt)) := by
  unfold buildOutputs
  refine (quiet_logAt _ _ _).bind ?_
  refine (Quiet.forIn (outputStep fmt) ?_ results _).bind ?_
  · -- each turn reports the filter, then writes its outputs
    rintro ⟨name, files⟩ ⟨outs, matched⟩
    refine (quiet_reportFilter name files).bind ?_
    dsimp only
    split <;> split
    all_goals
      refine (quiet_pure _).of_eq ?_
      simp_all [outputStep, putAll, filterWrites]
  · -- after the loop, `changes` is written unless a filter has that name
    rw [foldl_outputStep]
    dsimp only
    split
    · refine (quiet_logAt _ _ _).bind ((quiet_pure _).of_eq ?_)
      simp_all [writes, changesWrites]
    · refine (quiet_logAt _ _ _).bind ((quiet_pure _).of_eq ?_)
      simp_all [writes, changesWrites, putAll_append]

/-! ## The outputs of a match -/

/-- The outputs of a match, for every list of filter results, list format
    and workspace. Building them changes only the log. They are the writes of
    the match (per filter its flag, count and, unless the format is `none`,
    file list; then `changes` unless a filter has that name) applied in
    order: the keys stand in the order of their first write, each with the
    value of its last write, and when no two writes share a key the outputs
    are exactly the writes. -/
theorem outputs_of_match (results : List (String × List ChangedFile)) (fmt : ListFormat)
    (w : Workspace) :
    ∃ outs log, (buildOutputs results fmt : RunM _).run.run w = (.ok outs, { w with log := log }) ∧
      outs.map Prod.fst = ((writes results fmt).map Prod.fst).eraseDups ∧
      (∀ k, outs.lookup k = (writes results fmt).reverse.lookup k) ∧
      (((writes results fmt).map Prod.fst).Nodup → outs = writes results fmt) := by
  obtain ⟨log, hrun⟩ := quiet_buildOutputs results fmt w
  exact ⟨_, log, hrun, keys_putAll _, lookup_putAll _, putAll_eq_self⟩

/-- Two filters whose writes share no key, with the shell format: the
    outputs are their flags, counts and file lists, then `changes`. -/
theorem outputs_at_src_docs :
    ((writes [("src", [⟨"src/a b", .added⟩]), ("docs", [])] .shell).map Prod.fst).Nodup ∧
      ∃ outs log, (buildOutputs [("src", [⟨"src/a b", .added⟩]), ("docs", [])] .shell :
          RunM _).run.run default = (.ok outs, { (default : Workspace) with log := log }) ∧
        outs = writes [("src", [⟨"src/a b", .added⟩]), ("docs", [])] .shell := by
  have hnodup :
      ((writes [("src", [⟨"src/a b", .added⟩]), ("docs", [])] .shell).map Prod.fst).Nodup := by
    decide
  obtain ⟨outs, log, hrun, -, -, heq⟩ :=
    outputs_of_match [("src", [⟨"src/a b", .added⟩]), ("docs", [])] .shell default
  exact ⟨hnodup, outs, log, hrun, heq hnodup⟩

/-- A filter named `a_count` after a filter `a` with one file: the count
    output of `a` holds the flag of `a_count`, not `1`. -/
theorem count_output_overwritten :
    ∃ log, (buildOutputs [("a", [⟨"x", .added⟩]), ("a_count", [])] .none : RunM _).run.run default =
      (.ok [("a", "true"), ("a_count", "false"), ("a_count_count", "0"), ("changes", "[\"a\"]")],
        { (default : Workspace) with log := log }) := by
  obtain ⟨log, hrun⟩ := quiet_buildOutputs [("a", [⟨"x", .added⟩]), ("a_count", [])] .none default
  refine ⟨log, hrun.trans ?_⟩
  have hputs : putAll [] (writes [("a", [⟨"x", .added⟩]), ("a_count", [])] .none) =
      [("a", "true"), ("a_count", "false"), ("a_count_count", "0"), ("changes", "[\"a\"]")] := by
    decide
  rw [hputs]

end Output

end ChangeFilter
