import Mathlib
import ChangeFilter.Proofs.Git.Trace

/-! # Deepening the history

    Without a merge-base the search deepens the history round by round: each
    round probes the two refs, fetches twice as deep as the round before (up
    to `maxDepth`) and reads the commit count again; a round that brings no
    new commits ends the loop with one fetch of the full history and a last
    probe (`lastAttempt`).

    The loop has no bound of its own: it stops because the count, which never
    falls and never passes some `N` (`Script.CountsBelow`), must grow in every
    round that goes on. So from a count `last` there are at most
    `N - last + 1` deepening fetches, and a bound of `rounds` past
    `N - last` changes nothing.

    Main statements:
    * `runs_lastAttempt` — the full fetch and the last probe;
    * `runs_deepen` — the loop, by induction on `N` less the last count,
      described by `LoopRun`. -/

namespace ChangeFilter.Git

/-! ## Deepening fetches -/

/-- A fetch of `base` and `head` deepened to a depth. -/
def deepenArgs (base head : String) (depth : Int) : List String :=
  ["fetch", "--deepen=" ++ toString depth, "origin", base, head]

/-- Whether a command is a deepening fetch: a fetch whose first option is
    `--deepen=`. -/
def isDeepen : List String → Bool
  | "fetch" :: opt :: _ => "--deepen=".toList.isPrefixOf opt.toList
  | _ => false

@[simp] theorem isDeepen_deepenArgs (base head : String) (depth : Int) :
    isDeepen (deepenArgs base head depth) = true := by
  simp [isDeepen, deepenArgs]

@[simp] theorem isDeepen_probeArgs (b h : String) : isDeepen (probeArgs b h) = false := by
  simp [isDeepen, probeArgs]

@[simp] theorem isDeepen_countArgs : isDeepen countArgs = false := by
  simp [isDeepen, countArgs]

@[simp] theorem isDeepen_fetch : isDeepen ["fetch"] = false := by
  simp [isDeepen]

/-- Doubling a depth capped at `maxDepth`, then doubling `j` more times and
    capping, is doubling `j + 1` times and capping once. -/
theorem min_double_pow (x : Int) (j : Nat) :
    min (min (x * 2) maxDepth * 2 ^ j) maxDepth = min (x * 2 ^ (j + 1)) maxDepth := by
  have hM : 0 ≤ maxDepth := by decide
  have ht : (1 : Int) ≤ 2 ^ j := one_le_pow₀ (by norm_num)
  rw [pow_succ, mul_comm (2 ^ j) 2, ← mul_assoc]
  rcases le_total (x * 2) maxDepth with hle | hle
  · rw [min_eq_left hle]
  · -- Once the cap is reached, every later depth is the cap.
    rw [min_eq_right hle, min_eq_right (by nlinarith), min_eq_right (by nlinarith)]

/-! ## The counts of a script -/

/-- The commit counts a script gives never fall and never pass `N`. -/
structure Script.CountsBelow (s : Script) (N : Int) : Prop where
  rise : ∀ m n a c, m ≤ n → s.countAt m = some a → s.countAt n = some c → a ≤ c
  le : ∀ n c, s.countAt n = some c → c ≤ N

/-! ## The loop -/

/-- What a deepening loop from depth `depth` did after the commands `cs`: its
    `k` deepening fetches double the depth each time; it runs only probes of
    `b` and `h`, deepening fetches, counts and full fetches; when it ends, its
    last command is a probe, and the loop reports no merge-base exactly when
    that probe failed, after one full fetch. -/
structure LoopRun (s : Script) (base head b h : String) (depth : Int)
    (cs new : List (List String)) (r : Except GitError Bool) (k : Nat) : Prop where
  deepens : new.filter isDeepen =
    (List.range k).map fun i => deepenArgs base head (min (depth * 2 ^ (i + 1)) maxDepth)
  kinds : ∀ c ∈ new, c = probeArgs b h ∨ isDeepen c = true ∨ c = countArgs ∨ c = ["fetch"]
  ends : ∀ orphan, r = .ok orphan → ∃ pre, new = pre ++ [probeArgs b h] ∧
    orphan = !(s.answer (cs ++ pre) (probeArgs b h)).succeeded ∧
    (orphan = true → new.count ["fetch"] = 1)
  errors : ∀ e, r = .error e → e.code ≠ .notFound

/-- The last attempt fetches the full history once and probes again; it
    reports no merge-base exactly when that probe fails. -/
theorem runs_lastAttempt (b h : String) (s : Script) (cs : List (List String)) :
    ∃ new r L, Runs (lastAttempt b h) s cs new r L ∧
      (new = [["fetch"]] ∨ new = [["fetch"], probeArgs b h]) ∧
      (∀ orphan, r = .ok orphan → new = [["fetch"], probeArgs b h] ∧
        orphan = !(s.answer (cs ++ [["fetch"]]) (probeArgs b h)).succeeded) ∧
      (∀ e, r = .error e → e.code ≠ .notFound) := by
  obtain ⟨rf, Lf, hfetch, -, hferr⟩ := runs_run ["fetch"] true s cs
  -- Two log lines, then the fetch.
  have hstart : ∀ {n r L}, Runs (run ["fetch"] true >>= fun _ =>
        hasMergeBase (some b) (some h) >>= fun p => pure !p) s cs n r L →
      ∃ L', Runs (lastAttempt b h) s cs n r L' :=
    fun hr => ⟨_, (runs_logAt _ _ _ s cs).bind_ok_nil ((runs_logAt _ _ _ s cs).bind_ok_nil hr)⟩
  cases rf with
  | error e =>
    obtain ⟨L', hrun⟩ := hstart hfetch.bind_error
    exact ⟨[["fetch"]], .error e, L', hrun, .inl rfl, by simp,
      fun e' he' => by cases he'; exact hferr e rfl⟩
  | ok c =>
    obtain ⟨rp, Lp, hprobe, hpok, hperr⟩ := runs_hasMergeBase b h s (cs ++ [["fetch"]])
    cases rp with
    | error e =>
      obtain ⟨L', hrun⟩ := hstart (hfetch.bind_ok hprobe.bind_error)
      exact ⟨_, .error e, L', hrun, .inr rfl, by simp,
        fun e' he' => by cases he'; exact hperr e rfl⟩
    | ok p =>
      obtain ⟨L', hrun⟩ := hstart (hfetch.bind_ok ((hprobe.bind_ok (runs_pure (!p) s _)).of_eq
        (List.append_nil _) rfl))
      refine ⟨_, .ok !p, L', hrun, .inr rfl, fun orphan horphan => ?_, by simp⟩
      cases horphan
      exact ⟨rfl, by rw [hpok p rfl]⟩

namespace LoopRun

variable {s : Script} {base head b h : String} {depth : Int} {cs : List (List String)}

/-- A loop that ends in its last attempt: no deepening fetch. -/
theorem of_lastAttempt {new : List (List String)} {r : Except GitError Bool}
    (hshape : new = [["fetch"]] ∨ new = [["fetch"], probeArgs b h])
    (hend : ∀ orphan, r = .ok orphan → new = [["fetch"], probeArgs b h] ∧
      orphan = !(s.answer (cs ++ [["fetch"]]) (probeArgs b h)).succeeded)
    (herr : ∀ e, r = .error e → e.code ≠ .notFound) :
    LoopRun s base head b h depth cs new r 0 := by
  refine ⟨?_, ?_, fun orphan horphan => ?_, herr⟩
  · rcases hshape with rfl | rfl <;> simp
  · rcases hshape with rfl | rfl <;> simp
  · obtain ⟨rfl, hprobe⟩ := hend orphan horphan
    exact ⟨[["fetch"]], rfl, hprobe, fun _ => by simp [probeArgs]⟩

/-- One more round in front: a failed probe, a deepening fetch to twice the
    depth and a count. -/
theorem round {rest : List (List String)} {r : Except GitError Bool} {k : Nat}
    (hl : LoopRun s base head b h (min (depth * 2) maxDepth)
      (cs ++ [probeArgs b h, deepenArgs base head (min (depth * 2) maxDepth), countArgs]) rest r k) :
    LoopRun s base head b h depth cs
      ([probeArgs b h, deepenArgs base head (min (depth * 2) maxDepth), countArgs] ++ rest) r
      (k + 1) := by
  refine ⟨?_, ?_, fun orphan horphan => ?_, hl.errors⟩
  · -- The first deepening fetch doubles once; the others go on from there.
    rw [List.filter_append, hl.deepens, List.range_succ_eq_map, List.map_cons, List.map_map]
    simp only [List.filter_cons, isDeepen_probeArgs, isDeepen_deepenArgs, isDeepen_countArgs,
      List.filter_nil, Function.comp_def, min_double_pow, zero_add, pow_one]
    simp
  · intro c hc
    simp only [List.cons_append, List.mem_cons, List.nil_append] at hc
    rcases hc with rfl | rfl | rfl | hc
    · exact .inl rfl
    · exact .inr (.inl (isDeepen_deepenArgs _ _ _))
    · exact .inr (.inr (.inl rfl))
    · exact hl.kinds c hc
  · obtain ⟨pre, hrest, hprobe, hfetch⟩ := hl.ends orphan horphan
    refine ⟨[probeArgs b h, deepenArgs base head (min (depth * 2) maxDepth), countArgs] ++ pre,
      by rw [hrest, List.append_assoc], by rw [hprobe, List.append_assoc], fun ho => ?_⟩
    have := hfetch ho
    simp only [List.count_append] at this ⊢
    simp [probeArgs, deepenArgs, countArgs, this]

end LoopRun

/-- The deepening loop from the count `last`, which no later count is below:
    every bound on the rounds past `N - last` gives one and the same run, and
    it makes at most `N - last + 1` deepening fetches. The induction is on
    `N - last`: a round that goes on has read a larger count. -/
theorem runs_deepen {s : Script} {N : Int} (hs : s.CountsBelow N) (base head b h : String)
    (depth last : Int) (cs : List (List String)) (hlastN : last ≤ N)
    (hlast : ∀ n c, cs.count countArgs ≤ n → s.countAt n = some c → last ≤ c) :
    ∃ new r L, ∃ k : Nat, (∀ rounds : Nat, N - last < rounds →
        Runs (deepen base head b h rounds depth last) s cs new r L) ∧
      (k : Int) ≤ N - last + 1 ∧ LoopRun s base head b h depth cs new r k := by
  induction hn : (N - last).toNat using Nat.strong_induction_on generalizing depth last cs with
  | _ n ih =>
  -- Every bound past `N - last` leaves a first round to run.
  have hround : ∀ rounds : Nat, N - last < rounds → ∃ f : Nat, rounds = f + 1 ∧ N - last ≤ f :=
    fun rounds hr => ⟨rounds - 1, by omega, by omega⟩
  obtain ⟨rp, Lp, hprobe, hpok, hperr⟩ := runs_hasMergeBase b h s cs
  cases rp with
  | error e =>
    refine ⟨[probeArgs b h], .error e, Lp, 0, fun rounds hr => ?_, by omega,
      ⟨by simp, by simp, by simp, fun e' he' => by cases he'; exact hperr e rfl⟩⟩
    obtain ⟨f, rfl, -⟩ := hround rounds hr
    rw [deepen]
    exact hprobe.bind_error
  | ok found =>
  cases found with
  | true =>
    -- A merge-base: the loop ends at once.
    refine ⟨[probeArgs b h], .ok false, id ∘ Lp, 0, fun rounds hr => ?_, by omega,
      ⟨by simp, by simp, fun orphan ho => ?_, by simp⟩⟩
    · obtain ⟨f, rfl, -⟩ := hround rounds hr
      rw [deepen]
      apply hprobe.bind_ok
      exact runs_pure _ s _
    · cases ho
      exact ⟨[], rfl, by simp [← hpok true rfl], by simp⟩
  | false =>
  -- No merge-base: fetch deeper and count.
  set depth' := min (depth * 2) maxDepth with hdepth'
  have hdeepen : isDeepen (deepenArgs base head depth') = true := isDeepen_deepenArgs _ _ _
  obtain ⟨rd, Ld, hfetch, -, hferr⟩ :=
    runs_run (deepenArgs base head depth') true s (cs ++ [probeArgs b h])
  -- After the failed probe, a round goes on with the deepening fetch.
  have hstart : ∀ {rest : List (List String)} {r : Except GitError Bool} {L : Log → Log}
      (rounds : Nat), N - last < rounds →
      Runs (run (deepenArgs base head depth') true >>= fun _ => countCommits >>= fun count =>
          if (count == last) = true then lastAttempt b h else deepen base head b h (rounds - 1) depth' count)
        s (cs ++ [probeArgs b h]) rest r L →
      Runs (deepen base head b h rounds depth last) s cs ([probeArgs b h] ++ rest) r (L ∘ Lp) := by
    intro rest r L rounds hr hrest
    obtain ⟨f, rfl, -⟩ := hround rounds hr
    rw [deepen]
    apply hprobe.bind_ok
    simp only [Bool.false_eq_true, if_false]
    exact hrest
  cases rd with
  | error e =>
    refine ⟨[probeArgs b h, deepenArgs base head depth'], .error e, Ld ∘ Lp, 1,
      fun rounds hr => hstart rounds hr hfetch.bind_error, by omega,
      ⟨?_, ?_, by simp, fun e' he' => by cases he'; exact hferr e rfl⟩⟩
    · simp [hdepth']
    · intro c hc
      simp only [List.mem_cons, List.not_mem_nil, or_false] at hc
      rcases hc with rfl | rfl
      · exact .inl rfl
      · exact .inr (.inl hdeepen)
  | ok _ =>
  obtain ⟨rc, Lc, hcount, hcok, hcerr⟩ :=
    runs_countCommits s (cs ++ [probeArgs b h] ++ [deepenArgs base head depth'])
  -- The count read is the first one after `cs`.
  have hidx : (cs ++ [probeArgs b h] ++ [deepenArgs base head depth']).count countArgs =
      cs.count countArgs := by
    simp [probeArgs, deepenArgs, countArgs]
  rw [hidx] at hcok
  cases rc with
  | error e =>
    refine ⟨[probeArgs b h, deepenArgs base head depth', countArgs], .error e, (Lc ∘ Ld) ∘ Lp, 1,
      fun rounds hr => hstart rounds hr (hfetch.bind_ok hcount.bind_error), by omega,
      ⟨?_, ?_, by simp, fun e' he' => by cases he'; exact hcerr e rfl⟩⟩
    · simp [hdepth']
    · intro c hc
      simp only [List.mem_cons, List.not_mem_nil, or_false] at hc
      rcases hc with rfl | rfl | rfl
      · exact .inl rfl
      · exact .inr (.inl hdeepen)
      · exact .inr (.inr (.inl rfl))
  | ok c =>
  have hread := (hcok c).mp rfl
  have hcs : cs ++ [probeArgs b h] ++ [deepenArgs base head depth'] ++ [countArgs] =
      cs ++ [probeArgs b h, deepenArgs base head depth', countArgs] := by
    simp
  by_cases hc : c = last
  · -- No new commits: the last attempt ends the loop.
    obtain ⟨la, r, La, hla, hshape, hend, herr⟩ := runs_lastAttempt b h s
      (cs ++ [probeArgs b h] ++ [deepenArgs base head depth'] ++ [countArgs])
    refine ⟨[probeArgs b h, deepenArgs base head depth', countArgs] ++ la, r,
      ((La ∘ Lc) ∘ Ld) ∘ Lp, 1, fun rounds hr => hstart rounds hr ?_, by omega, LoopRun.round ?_⟩
    · apply hfetch.bind_ok
      apply hcount.bind_ok
      simp only [hc, beq_self_eq_true, if_true]
      exact hla
    · rw [← hcs]
      exact LoopRun.of_lastAttempt hshape hend herr
  · -- The count grew: one more round, from the larger count.
    have hlt : last < c := lt_of_le_of_ne (hlast _ _ le_rfl hread) (Ne.symm hc)
    have hcN : c ≤ N := hs.le _ _ hread
    have hlater : ∀ m c', (cs ++ [probeArgs b h] ++ [deepenArgs base head depth'] ++
        [countArgs]).count countArgs ≤ m → s.countAt m = some c' → c ≤ c' := by
      intro m c' hm hc'
      rw [List.count_append, hidx] at hm
      exact hs.rise _ _ _ _ (by simp at hm; omega) hread hc'
    obtain ⟨rest, r, Lr, k, hrest, hk, hloop⟩ :=
      ih (N - c).toNat (by omega) depth' c _ hcN hlater rfl
    refine ⟨[probeArgs b h, deepenArgs base head depth', countArgs] ++ rest, r,
      ((Lr ∘ Lc) ∘ Ld) ∘ Lp, k + 1, fun rounds hr => hstart rounds hr ?_, by omega,
      LoopRun.round ?_⟩
    · apply hfetch.bind_ok
      apply hcount.bind_ok
      simp only [beq_iff_eq, hc, if_false]
      exact hrest (rounds - 1) (by omega)
    · rw [← hcs]
      exact hloop

end ChangeFilter.Git
