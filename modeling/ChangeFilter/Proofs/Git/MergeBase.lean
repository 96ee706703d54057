import Mathlib
import ChangeFilter.Proofs.Git.Deepen
import ChangeFilter.Proofs.Git.Resolve

/-! # The merge-base search

    `sinceMergeBase rounds base head d` looks both refs up, and probes them for
    a merge-base when both were found. Without one it fetches `d` commits
    deep, resolves what is still missing, reads the commit count and deepens
    the history (see `runs_deepen`). The diff is `b...h` when the last probe
    found a merge-base, else `b..h`.

    Main statements:
    * `runs_searchMergeBase` — the search, described by `SearchRun`;
    * `merge_base_search` — the whole run from a fresh session, against any
      script whose counts never fall and never pass `N`, described by
      `ChangesRun`: it ends in the same way for every bound on the rounds
      past `N - c0`, makes at most `N - c0 + 1` deepening fetches, probes and
      diffs only refs that lookups found, and runs at most one diff. -/

namespace ChangeFilter.Git

/-! ## The search -/

/-- The first fetch of the search, `depth` commits deep and without tags. -/
def depthArgs (base head : String) (depth : Int) : List String :=
  ["fetch", "--no-tags", "--depth=" ++ toString depth, "origin", base, head]

/-- Whether a command is a merge-base probe. -/
def isProbe : List String → Bool
  | "merge-base" :: _ => true
  | _ => false

/-- Whether a command is a diff. -/
def isDiff : List String → Bool
  | "diff" :: _ => true
  | _ => false

@[simp] theorem isProbe_probeArgs (b h : String) : isProbe (probeArgs b h) = true := rfl

@[simp] theorem isDiff_probeArgs (b h : String) : isDiff (probeArgs b h) = false := by
  simp [isDiff, probeArgs]

/-- A deepening fetch is a fetch: no probe and no diff. -/
theorem isProbe_isDiff_of_isDeepen {c : List String} (hc : isDeepen c = true) :
    isProbe c = false ∧ isDiff c = false := by
  unfold isDeepen at hc
  split at hc
  · simp [isProbe, isDiff]
  · cases hc

/-- A lookup is no probe, no diff, no deepening fetch and no count. -/
theorem lookupArgs_quiet (name : String) :
    isProbe (lookupArgs name) = false ∧ isDiff (lookupArgs name) = false ∧
      isDeepen (lookupArgs name) = false ∧ lookupArgs name ≠ countArgs := by
  unfold lookupArgs
  split <;> simp [isProbe, isDiff, isDeepen, countArgs]

/-- A command of the search's setup around its first fetch: that fetch, a
    lookup of either ref, or the fetch of tags. -/
def SetupCmd (base head : String) (depth : Int) (c : List String) : Prop :=
  c = depthArgs base head depth ∨ c = lookupArgs base ∨ c = lookupArgs head ∨ c = tagArgs base head

theorem depthArgs_ne_lookupArgs (base head name : String) (depth : Int) :
    depthArgs base head depth ≠ lookupArgs name := by
  unfold depthArgs lookupArgs
  split <;> simp

section Setup

variable {base head : String} {depth : Int}

/-- No setup command deepens, counts, fetches everything, probes or diffs. -/
theorem SetupCmd.not_loop {c : List String} (hc : SetupCmd base head depth c) :
    isDeepen c = false ∧ c ≠ countArgs ∧ c ≠ ["fetch"] ∧ isProbe c = false ∧ isDiff c = false := by
  rcases hc with rfl | rfl | rfl | rfl
  · simp [depthArgs, isDeepen, countArgs, isProbe, isDiff, List.isPrefixOf]
  · unfold lookupArgs
    split <;> simp [isDeepen, countArgs, isProbe, isDiff]
  · unfold lookupArgs
    split <;> simp [isDeepen, countArgs, isProbe, isDiff]
  · simp [tagArgs, isDeepen, countArgs, isProbe, isDiff, List.isPrefixOf]

/-- Probes and setup commands leave the index of the next count where it was. -/
theorem count_countArgs_of_setup {b h : String} {pre : List (List String)}
    (hpre : ∀ c ∈ pre, c = probeArgs b h ∨ SetupCmd base head depth c) (cs : List (List String)) :
    (cs ++ pre).count countArgs = cs.count countArgs := by
  have hnone : pre.count countArgs = 0 := by
    refine List.count_eq_zero.mpr fun hm => ?_
    rcases hpre _ hm with hp | hs
    · simp [probeArgs, countArgs] at hp
    · exact hs.not_loop.2.1 rfl
  rw [List.count_append, hnone, add_zero]

end Setup

/-- After the refs `b` and `h` are known: a count, then the loop from it. A
    bound past `N - c0` on the rounds, `c0` the count read, gives one run. -/
theorem runs_countAndDeepen {s : Script} {N : Int} (hs : s.CountsBelow N) (base head b h : String)
    (depth : Int) (cs : List (List String)) :
    ∃ new r L, ∃ k : Nat,
      (∀ rounds : Nat, (∀ c0, s.countAt (cs.count countArgs) = some c0 → N - c0 < rounds) →
        Runs (countCommits >>= fun last => deepen base head b h rounds depth last >>= fun orphan =>
          pure (b, h, orphan)) s cs (countArgs :: new) (r.map fun orphan => (b, h, orphan)) L) ∧
      (0 < k → ∃ c0, s.countAt (cs.count countArgs) = some c0 ∧ (k : Int) ≤ N - c0 + 1) ∧
      LoopRun s base head b h depth (cs ++ [countArgs]) new r k := by
  obtain ⟨rc, Lc, hcount, hcok, hcerr⟩ := runs_countCommits s cs
  cases rc with
  | error e =>
    refine ⟨[], .error e, Lc, 0, fun rounds _ => hcount.bind_error, by omega,
      ⟨by simp, by simp, by simp, fun e' he' => ?_⟩⟩
    cases he'
    exact hcerr e rfl
  | ok c0 =>
  have hread := (hcok c0).mp rfl
  -- Every later count is at least `c0`: the counts never fall.
  have hlater : ∀ n c, (cs ++ [countArgs]).count countArgs ≤ n → s.countAt n = some c → c0 ≤ c := by
    intro n c hn hc
    rw [List.count_append] at hn
    exact hs.rise _ _ _ _ (by simp at hn; omega) hread hc
  obtain ⟨new, r, L, k, hloop, hk, hrun⟩ :=
    runs_deepen hs base head b h depth c0 (cs ++ [countArgs]) (hs.le _ _ hread) hlater
  exact ⟨new, r, L ∘ Lc, k, fun rounds hr => hcount.bind_ok (hloop rounds (hr c0 hread)).bind_pure,
    fun _ => ⟨c0, hread, hk⟩, hrun⟩

/-- A pair of refs used when both are there, else resolved, then handed on. -/
theorem Runs.pair_or_bind {β : Type} {T : GitM (String × String)} {k : String × String → GitM β}
    {x y : Option String} {s : Script} {cs n : List (List String)} {r : Except GitError β}
    {L : Log → Log} (hxy : x = none ∨ y = none) (h : Runs (T >>= k) s cs n r L) :
    Runs (match x, y with
      | some b, some h => pure (b, h) >>= k
      | _, _ => T >>= k) s cs n r L := by
  rcases hxy with rfl | rfl
  · exact h
  · cases x <;> exact h

/-- What the merge-base search did after the commands `cs`, from the refs
    `b0` and `h0` the first lookups found. -/
structure SearchRun (s : Script) (N : Int) (base head : String) (depth : Int)
    (b0 h0 : Option String) (cs new : List (List String))
    (r : Except GitError (String × String × Bool)) (k : Nat) : Prop where
  /-- The `k` deepening fetches double the depth each time. -/
  deepens : new.filter isDeepen =
    (List.range k).map fun i => deepenArgs base head (min (depth * 2 ^ (i + 1)) maxDepth)
  /-- Deepening follows the first count `c0`, and fetches at most `N - c0 + 1` times. -/
  bounded : 0 < k → ∃ c0, s.countAt (cs.count countArgs) = some c0 ∧ (k : Int) ≤ N - c0 + 1
  /-- Probes are of resolved refs; the rest is setup, deepening, counts and full fetches. -/
  kinds : ∀ c ∈ new, (∃ b h, c = probeArgs b h ∧ RefOf base b ∧ RefOf head h) ∨
    SetupCmd base head depth c ∨ isDeepen c = true ∨ c = countArgs ∨ c = ["fetch"]
  /-- The refs given name `base` and `head`, were found before or by a
      lookup, and were probed last: no merge-base is reported exactly when
      that probe failed, after one full fetch. -/
  ends : ∀ b h orphan, r = .ok (b, h, orphan) → RefOf base b ∧ RefOf head h ∧
    ¬ (b0 = none ∧ FindsNothing s base cs new) ∧ ¬ (h0 = none ∧ FindsNothing s head cs new) ∧
    ∃ pre, new = pre ++ [probeArgs b h] ∧
      orphan = !(s.answer (cs ++ pre) (probeArgs b h)).succeeded ∧
      (orphan = true → new.count ["fetch"] = 1)
  /-- A ref is missing only after the tag fetch; `base` is named when no
      lookup of it found a ref. -/
  missing : ∀ e, r = .error e → e.code = .notFound → tagArgs base head ∈ new ∧
    (e = .unresolved base ∨ e = .unresolved head) ∧
    (base ≠ head → (e = .unresolved base ↔ b0 = none ∧ FindsNothing s base cs new))

namespace SearchRun

variable {s : Script} {N : Int} {base head : String} {depth : Int} {b0 h0 : Option String}
  {cs : List (List String)}

/-- A search that failed before its loop for a reason other than a missing ref. -/
theorem of_error {new : List (List String)} {e : GitError}
    (hkinds : ∀ c ∈ new, (∃ b h, c = probeArgs b h ∧ RefOf base b ∧ RefOf head h) ∨
      SetupCmd base head depth c)
    (he : e.code ≠ .notFound) : SearchRun s N base head depth b0 h0 cs new (.error e) 0 := by
  refine ⟨?_, by omega, fun c hc => ?_, by simp, fun e' he' hnf => ?_⟩
  · rw [List.range_zero, List.map_nil, List.filter_eq_nil_iff]
    intro c hc
    rcases hkinds c hc with ⟨b, h, rfl, -⟩ | hs
    · simp
    · simp [hs.not_loop.1]
  · rcases hkinds c hc with hp | hs
    · exact .inl hp
    · exact .inr (.inl hs)
  · cases he'
    exact absurd hnf he

/-- A search that reached its loop with the refs `b` and `h`, after the setup `pre`. -/
theorem of_loop {b h : String} {pre loop : List (List String)} {r : Except GitError Bool} {k : Nat}
    (hb : RefOf base b) (hh : RefOf head h)
    (hpre : ∀ c ∈ pre, c = probeArgs b h ∨ SetupCmd base head depth c)
    (hfound : ¬ (b0 = none ∧ FindsNothing s base cs pre) ∧ ¬ (h0 = none ∧ FindsNothing s head cs pre))
    (hk : 0 < k → ∃ c0, s.countAt (cs.count countArgs) = some c0 ∧ (k : Int) ≤ N - c0 + 1)
    (hloop : LoopRun s base head b h depth (cs ++ pre ++ [countArgs]) loop r k) :
    SearchRun s N base head depth b0 h0 cs (pre ++ countArgs :: loop) (r.map fun o => (b, h, o))
      k := by
  -- The setup neither deepens nor fetches everything.
  have hsetup : ∀ c ∈ pre, isDeepen c = false ∧ c ≠ ["fetch"] := by
    intro c hc
    rcases hpre c hc with rfl | hs
    · exact ⟨isDeepen_probeArgs b h, by simp [probeArgs]⟩
    · exact ⟨hs.not_loop.1, hs.not_loop.2.2.1⟩
  refine ⟨?_, hk, fun c hc => ?_, fun b' h' o hr => ?_, fun e he hnf => ?_⟩
  · rw [List.filter_append, List.filter_eq_nil_iff.mpr fun c hc => by simp [(hsetup c hc).1],
      List.filter_cons, isDeepen_countArgs, hloop.deepens]
    simp
  · simp only [List.mem_append, List.mem_cons] at hc
    rcases hc with hc | rfl | hc
    · rcases hpre c hc with rfl | hs
      · exact .inl ⟨b, h, rfl, hb, hh⟩
      · exact .inr (.inl hs)
    · exact .inr (.inr (.inr (.inl rfl)))
    · rcases hloop.kinds c hc with rfl | hd | rfl | rfl
      · exact .inl ⟨b, h, rfl, hb, hh⟩
      · exact .inr (.inr (.inl hd))
      · exact .inr (.inr (.inr (.inl rfl)))
      · exact .inr (.inr (.inr (.inr rfl)))
  · cases r with
    | error e => cases hr
    | ok o' =>
    simp only [Except.map, Except.ok.injEq, Prod.mk.injEq] at hr
    obtain ⟨rfl, rfl, rfl⟩ := hr
    obtain ⟨pre', hloop_eq, hprobe, hfetch⟩ := hloop.ends o' rfl
    refine ⟨hb, hh, fun hn => hfound.1 ⟨hn.1, (findsNothing_append.mp hn.2).1⟩,
      fun hn => hfound.2 ⟨hn.1, (findsNothing_append.mp hn.2).1⟩, pre ++ countArgs :: pre',
      by simp [hloop_eq], ?_, fun ho => ?_⟩
    · simpa only [List.append_assoc, List.singleton_append] using hprobe
    · rw [List.count_append, List.count_cons, hfetch ho,
        List.count_eq_zero.mpr fun hm => (hsetup _ hm).2 rfl]
      simp [countArgs]
  · cases r with
    | ok o => cases he
    | error e' =>
    cases he
    exact absurd hnf (hloop.errors _ rfl)

/-- A search that failed to resolve a missing ref after its first fetch. -/
theorem of_resolve {rnew : List (List String)} {e : GitError}
    (hres : ResolveRun s base head b0 h0 (cs ++ [depthArgs base head depth]) rnew (.error e)) :
    SearchRun s N base head depth b0 h0 cs (depthArgs base head depth :: rnew) (.error e) 0 := by
  have hkinds : ∀ c ∈ depthArgs base head depth :: rnew, SetupCmd base head depth c := by
    intro c hc
    rcases List.mem_cons.mp hc with rfl | hc
    · exact .inl rfl
    · exact .inr (hres.kinds c hc)
  refine ⟨?_, by omega, fun c hc => .inr (.inl (hkinds c hc)), by simp, fun e' he' hnf => ?_⟩
  · rw [List.range_zero, List.map_nil, List.filter_eq_nil_iff]
    intro c hc
    simp [(hkinds c hc).not_loop.1]
  · cases he'
    obtain ⟨htag, hname, hbase⟩ := hres.missing e rfl hnf
    refine ⟨List.mem_cons_of_mem _ htag, hname, fun hne => ?_⟩
    -- The first fetch is no lookup, so only the resolution's lookups count.
    have hdepth : FindsNothing s base cs [depthArgs base head depth] :=
      findsNothing_of_forall_ne fun c hc => by
        rw [List.mem_singleton.mp hc]
        exact depthArgs_ne_lookupArgs base head base depth
    rw [hbase hne, findsNothing_cons]
    simp [hdepth]

/-- A search runs no diff, and probes only resolved refs. -/
theorem quiet {new : List (List String)} {r : Except GitError (String × String × Bool)} {k : Nat}
    (hsr : SearchRun s N base head depth b0 h0 cs new r k) {c : List String} (hc : c ∈ new) :
    isDiff c = false ∧ (isProbe c = true → ∃ b h, c = probeArgs b h ∧ RefOf base b ∧ RefOf head h) := by
  rcases hsr.kinds c hc with ⟨b, h, rfl, hb, hh⟩ | hs | hd | rfl | rfl
  · exact ⟨isDiff_probeArgs b h, fun _ => ⟨b, h, rfl, hb, hh⟩⟩
  · exact ⟨hs.not_loop.2.2.2.2, fun hp => absurd hp (by simp [hs.not_loop.2.2.2.1])⟩
  · have := isProbe_isDiff_of_isDeepen hd
    exact ⟨this.2, fun hp => absurd hp (by simp [this.1])⟩
  · exact ⟨rfl, fun hp => absurd hp (by decide)⟩
  · exact ⟨rfl, fun hp => absurd hp (by decide)⟩

end SearchRun

/-- The search when the first lookups found both refs: they are probed first. -/
theorem runs_searchMergeBase_found {s : Script} {N : Int} (hs : s.CountsBelow N)
    (base head b h : String) (depth : Int) (hb : RefOf base b) (hh : RefOf head h)
    (cs : List (List String)) :
    ∃ new r L, ∃ k : Nat,
      (∀ rounds : Nat, (∀ c0, s.countAt (cs.count countArgs) = some c0 → N - c0 < rounds) →
        Runs (searchMergeBase rounds base head depth (some b) (some h)) s cs new r L) ∧
      SearchRun s N base head depth (some b) (some h) cs new r k := by
  obtain ⟨rp, Lp, hprobe, hpok, hperr⟩ := runs_hasMergeBase b h s cs
  cases rp with
  | error e =>
    refine ⟨[probeArgs b h], .error e, Lp, 0, fun rounds _ => ?_, .of_error ?_ (hperr e rfl)⟩
    · unfold searchMergeBase
      exact hprobe.bind_error
    · intro c hc
      exact .inl ⟨b, h, List.mem_singleton.mp hc, hb, hh⟩
  | ok found =>
  cases found with
  | true =>
    -- A merge-base at once: the refs found are the refs compared.
    refine ⟨[probeArgs b h] ++ [], .ok (b, h, false), id ∘ Lp, 0, fun rounds _ => ?_,
      ⟨by simp, by omega, fun c hc => ?_, fun b' h' o hr => ?_, by simp⟩⟩
    · unfold searchMergeBase
      exact hprobe.bind_ok (runs_pure _ s _)
    · exact .inl ⟨b, h, by simpa using hc, hb, hh⟩
    · simp only [Except.ok.injEq, Prod.mk.injEq] at hr
      obtain ⟨rfl, rfl, rfl⟩ := hr
      exact ⟨hb, hh, by simp, by simp, [], rfl, by simp [← hpok true rfl], by simp⟩
  | false =>
  obtain ⟨rd, Ld, hfetch, -, hferr⟩ :=
    runs_run (depthArgs base head depth) true s (cs ++ [probeArgs b h])
  have hpre : ∀ c ∈ [probeArgs b h, depthArgs base head depth],
      c = probeArgs b h ∨ SetupCmd base head depth c := by
    simp [SetupCmd]
  cases rd with
  | error e =>
    refine ⟨[probeArgs b h, depthArgs base head depth], .error e, Ld ∘ Lp, 0,
      fun rounds _ => ?_, .of_error (fun c hc => ?_) (hferr e rfl)⟩
    · unfold searchMergeBase
      exact hprobe.bind_ok hfetch.bind_error
    · rcases hpre c hc with rfl | hs
      · exact .inl ⟨b, h, rfl, hb, hh⟩
      · exact .inr hs
  | ok _ =>
  obtain ⟨loop, r, Lt, k, htail, hk, hloop⟩ :=
    runs_countAndDeepen hs base head b h depth (cs ++ [probeArgs b h] ++ [depthArgs base head depth])
  have hcs : cs ++ [probeArgs b h] ++ [depthArgs base head depth] =
      cs ++ [probeArgs b h, depthArgs base head depth] := by
    simp
  have hidx : (cs ++ [probeArgs b h] ++ [depthArgs base head depth]).count countArgs =
      cs.count countArgs := by
    rw [hcs]
    exact count_countArgs_of_setup hpre cs
  rw [hidx] at htail hk
  rw [hcs] at hloop
  refine ⟨[probeArgs b h, depthArgs base head depth] ++ countArgs :: loop, _, ((Lt ∘ id) ∘ Ld) ∘ Lp, k,
    fun rounds hr => ?_, .of_loop hb hh hpre ⟨by simp, by simp⟩ hk hloop⟩
  unfold searchMergeBase
  exact hprobe.bind_ok (hfetch.bind_ok ((runs_pure (b, h) s _).bind_ok_nil (htail rounds hr)))

/-- The search when a first lookup found nothing: no probe; the first fetch,
    then the resolution of what is missing. -/
theorem runs_searchMergeBase_missing {s : Script} {N : Int} (hs : s.CountsBelow N)
    (base head : String) (depth : Int) (b0 h0 : Option String) (hbh : b0 = none ∨ h0 = none)
    (hb0 : ∀ x, b0 = some x → RefOf base x) (hh0 : ∀ y, h0 = some y → RefOf head y)
    (cs : List (List String)) :
    ∃ new r L, ∃ k : Nat,
      (∀ rounds : Nat, (∀ c0, s.countAt (cs.count countArgs) = some c0 → N - c0 < rounds) →
        Runs (searchMergeBase rounds base head depth b0 h0) s cs new r L) ∧
      SearchRun s N base head depth b0 h0 cs new r k := by
  have hnone := runs_hasMergeBase_none hbh s cs
  obtain ⟨rd, Ld, hfetch, -, hferr⟩ := runs_run (depthArgs base head depth) true s cs
  cases rd with
  | error e =>
    refine ⟨[depthArgs base head depth], .error e, Ld ∘ id, 0, fun rounds _ => ?_,
      .of_error (fun c hc => .inr (.inl (List.mem_singleton.mp hc))) (hferr e rfl)⟩
    unfold searchMergeBase
    exact hnone.bind_ok_nil hfetch.bind_error
  | ok _ =>
  obtain ⟨rnew, rr, Lr, hres, hrr⟩ :=
    runs_resolveAfterFetch base head b0 h0 hb0 hh0 s (cs ++ [depthArgs base head depth])
  cases rr with
  | error e =>
    refine ⟨depthArgs base head depth :: rnew, .error e, (Lr ∘ Ld) ∘ id, 0, fun rounds _ => ?_,
      .of_resolve hrr⟩
    unfold searchMergeBase
    exact hnone.bind_ok_nil (hfetch.bind_ok (Runs.pair_or_bind hbh hres.bind_error))
  | ok bh =>
  obtain ⟨b, h⟩ := bh
  obtain ⟨hb, hh⟩ := hrr.refs b h rfl
  -- Each ref was found before, or by a lookup after the first fetch.
  have hfound : ¬ (b0 = none ∧ FindsNothing s base cs (depthArgs base head depth :: rnew)) ∧
      ¬ (h0 = none ∧ FindsNothing s head cs (depthArgs base head depth :: rnew)) := by
    obtain ⟨hfb, hfh⟩ := hrr.found b h rfl
    exact ⟨fun hn => hfb ⟨hn.1, (findsNothing_cons.mp hn.2).2⟩,
      fun hn => hfh ⟨hn.1, (findsNothing_cons.mp hn.2).2⟩⟩
  have hpre : ∀ c ∈ depthArgs base head depth :: rnew,
      c = probeArgs b h ∨ SetupCmd base head depth c := by
    intro c hc
    rcases List.mem_cons.mp hc with rfl | hc
    · exact .inr (.inl rfl)
    · exact .inr (.inr (hrr.kinds c hc))
  obtain ⟨loop, r, Lt, k, htail, hk, hloop⟩ :=
    runs_countAndDeepen hs base head b h depth (cs ++ [depthArgs base head depth] ++ rnew)
  have hcs : cs ++ [depthArgs base head depth] ++ rnew = cs ++ depthArgs base head depth :: rnew := by
    simp
  have hidx : (cs ++ [depthArgs base head depth] ++ rnew).count countArgs = cs.count countArgs := by
    rw [hcs]
    exact count_countArgs_of_setup hpre cs
  rw [hidx] at htail hk
  rw [hcs] at hloop
  refine ⟨depthArgs base head depth :: rnew ++ countArgs :: loop, _, ((Lt ∘ Lr) ∘ Ld) ∘ id, k,
    fun rounds hr => ?_, .of_loop hb hh hpre hfound hk hloop⟩
  unfold searchMergeBase
  exact hnone.bind_ok_nil (hfetch.bind_ok (Runs.pair_or_bind hbh (hres.bind_ok (htail rounds hr))))

/-- The merge-base search, from refs that name `base` and `head`: every bound
    on the rounds past `N - c0`, `c0` the first count, gives one and the same
    run, described by `SearchRun`. -/
theorem runs_searchMergeBase {s : Script} {N : Int} (hs : s.CountsBelow N) (base head : String)
    (depth : Int) (b0 h0 : Option String) (hb0 : ∀ x, b0 = some x → RefOf base x)
    (hh0 : ∀ y, h0 = some y → RefOf head y) (cs : List (List String)) :
    ∃ new r L, ∃ k : Nat,
      (∀ rounds : Nat, (∀ c0, s.countAt (cs.count countArgs) = some c0 → N - c0 < rounds) →
        Runs (searchMergeBase rounds base head depth b0 h0) s cs new r L) ∧
      SearchRun s N base head depth b0 h0 cs new r k := by
  by_cases hboth : ∃ b h, b0 = some b ∧ h0 = some h
  · obtain ⟨b, h, rfl, rfl⟩ := hboth
    exact runs_searchMergeBase_found hs base head b h depth (hb0 b rfl) (hh0 h rfl) cs
  · exact runs_searchMergeBase_missing hs base head depth b0 h0 (eq_none_or_eq_none hboth) hb0 hh0
      cs

/-! ## The changes since the merge-base -/

/-- The diff of a range of revisions. -/
def diffRangeArgs (range : String) : List String :=
  ["diff"] ++ diffArgs ++ [range]

@[simp] theorem isDiff_diffRangeArgs (range : String) : isDiff (diffRangeArgs range) = true := rfl

@[simp] theorem isProbe_diffRangeArgs (range : String) : isProbe (diffRangeArgs range) = false := by
  simp [isProbe, diffRangeArgs]

@[simp] theorem isDeepen_diffRangeArgs (range : String) : isDeepen (diffRangeArgs range) = false := by
  simp [isDeepen, diffRangeArgs]

/-- The diff of a range runs one command, and fails only as a command fails. -/
theorem runs_diff (range : String) (s : Script) (cs : List (List String)) :
    ∃ r L, Runs (diff [range]) s cs [diffRangeArgs range] r L ∧
      (∀ e, r = .error e → e.code ≠ .notFound) := by
  obtain ⟨r, L, hrun, -, herr⟩ := runs_run (diffRangeArgs range) true s cs
  have hdiff : Runs (diff [range]) s cs [diffRangeArgs range]
      (r.map fun c : Completed => namesOfDiff c.stdout) L :=
    hrun.bind_pure
  refine ⟨_, L, hdiff, fun e he => ?_⟩
  cases r with
  | ok c => cases he
  | error e' =>
    cases he
    exact herr _ rfl

/-- The lookups of two different names: `base` is found by neither exactly
    when its own lookup, the first, finds nothing. -/
theorem findsNothing_lookups {s : Script} {base head : String} (hne : base ≠ head)
    (new : List (List String)) :
    FindsNothing s base [] ([lookupArgs base, lookupArgs head] ++ new) ↔
      (s.answer [] (lookupArgs base)).found base = none ∧
        FindsNothing s base [lookupArgs base, lookupArgs head] new := by
  have hhead : FindsNothing s base [lookupArgs base] [lookupArgs head] :=
    findsNothing_of_forall_ne fun c hc hcb => by
      rw [List.mem_singleton.mp hc, lookupArgs_inj] at hcb
      exact hne hcb.symm
  have hpair : [lookupArgs base, lookupArgs head] = [lookupArgs base] ++ [lookupArgs head] := rfl
  rw [findsNothing_append, hpair, findsNothing_append, findsNothing_lookup]
  simp [hhead]

/-- The lookups of the two refs are no counts. -/
theorem count_countArgs_lookups (base head : String) :
    [lookupArgs base, lookupArgs head].count countArgs = 0 := by
  simp [(lookupArgs_quiet base).2.2.2, (lookupArgs_quiet head).2.2.2]

/-- A name that no lookup found, among the first lookups, a search and what
    follows: neither first lookup found it, nor any lookup of the search. -/
theorem findsNothing_of_lookups {s : Script} {name base head : String}
    {new rest : List (List String)}
    (h : FindsNothing s name [] ([lookupArgs base, lookupArgs head] ++ new ++ rest)) :
    FindsNothing s name [] [lookupArgs base] ∧
      FindsNothing s name [lookupArgs base] [lookupArgs head] ∧
      FindsNothing s name [lookupArgs base, lookupArgs head] new := by
  obtain ⟨hfirst, -⟩ := findsNothing_append.mp h
  obtain ⟨hpair, hnew⟩ := findsNothing_append.mp hfirst
  exact ⟨(findsNothing_cons.mp hpair).1, (findsNothing_cons.mp hpair).2, hnew⟩

/-- What looking for the changes since the merge-base did from a fresh
    session: the commands `cmds`, the result `r` and `k` deepening fetches. -/
structure ChangesRun (s : Script) (N : Int) (base head : String) (depth : Int)
    (cmds : List (List String)) (r : Except GitError (List ChangedFile)) (k : Nat) : Prop where
  /-- The `k` deepening fetches double the first depth each time, up to `maxDepth`. -/
  deepens : cmds.filter isDeepen =
    (List.range k).map fun i => deepenArgs base head (min (depth * 2 ^ (i + 1)) maxDepth)
  /-- Deepening follows the first count `c0`, and fetches at most `N - c0 + 1` times. -/
  bounded : 0 < k → ∃ c0, s.countAt 0 = some c0 ∧ (k : Int) ≤ N - c0 + 1
  /-- Every probe is of two resolved refs. -/
  probes : ∀ c ∈ cmds, isProbe c = true → ∃ b h, c = probeArgs b h ∧ RefOf base b ∧ RefOf head h
  /-- Every diff is of two resolved refs, through their merge-base or directly. -/
  diffs : ∀ c ∈ cmds, isDiff c = true → ∃ b h, RefOf base b ∧ RefOf head h ∧
    (c = diffRangeArgs (b ++ "..." ++ h) ∨ c = diffRangeArgs (b ++ ".." ++ h))
  /-- At most one diff is run. -/
  one_diff : cmds.countP isDiff ≤ 1
  /-- A result needs both refs found by some lookup; it comes from the one
      diff, right after the last probe: of `b...h` when that probe found a
      merge-base, else of `b..h` after one full fetch. -/
  ok : ∀ files, r = .ok files → ¬ FindsNothing s base [] cmds ∧ ¬ FindsNothing s head [] cmds ∧
    ∃ pre b h, RefOf base b ∧ RefOf head h ∧ pre.countP isDiff = 0 ∧
    ((cmds = pre ++ [probeArgs b h, diffRangeArgs (b ++ "..." ++ h)] ∧
        (s.answer pre (probeArgs b h)).succeeded = true) ∨
      (cmds = pre ++ [probeArgs b h, diffRangeArgs (b ++ ".." ++ h)] ∧
        (s.answer pre (probeArgs b h)).succeeded = false ∧ cmds.count ["fetch"] = 1))
  /-- A missing ref fails after the tag fetch; it is `base` when no lookup of
      `base` found a ref, else `head`. -/
  missing : ∀ e, r = .error e → e.code = .notFound → tagArgs base head ∈ cmds ∧
    (FindsNothing s base [] cmds → e = .unresolved base) ∧
    (¬ FindsNothing s base [] cmds → e = .unresolved head)

namespace ChangesRun

variable {s : Script} {N : Int} {base head : String} {depth : Int}

/-- A run that failed in the first lookups. -/
theorem of_lookups {cmds : List (List String)} {e : GitError}
    (hcmds : ∀ c ∈ cmds, c = lookupArgs base ∨ c = lookupArgs head) (he : e.code ≠ .notFound) :
    ChangesRun s N base head depth cmds (.error e) 0 := by
  -- Lookups are quiet: no probe, diff or deepening fetch.
  have hquiet : ∀ c ∈ cmds, isProbe c = false ∧ isDiff c = false ∧ isDeepen c = false := by
    intro c hc
    rcases hcmds c hc with rfl | rfl
    · exact (lookupArgs_quiet base).imp_right fun h => ⟨h.1, h.2.1⟩
    · exact (lookupArgs_quiet head).imp_right fun h => ⟨h.1, h.2.1⟩
  refine ⟨?_, by omega, fun c hc hp => ?_, fun c hc hd => ?_, ?_, by simp,
    fun e' he' hnf => ?_⟩
  · rw [List.range_zero, List.map_nil, List.filter_eq_nil_iff]
    intro c hc
    simp [(hquiet c hc).2.2]
  · simp [(hquiet c hc).1] at hp
  · simp [(hquiet c hc).2.1] at hd
  · rw [List.countP_eq_zero.mpr fun c hc => by simp [(hquiet c hc).2.1]]
    omega
  · cases he'
    exact absurd hnf he

/-- The first lookups, then a search: the lookups add nothing to what the
    search did. -/
theorem of_search_prefix {b0 h0 : Option String} {new : List (List String)}
    {r : Except GitError (String × String × Bool)} {k : Nat}
    (hsr : SearchRun s N base head depth b0 h0 [lookupArgs base, lookupArgs head] new r k) :
    ([lookupArgs base, lookupArgs head] ++ new).filter isDeepen =
        (List.range k).map (fun i => deepenArgs base head (min (depth * 2 ^ (i + 1)) maxDepth)) ∧
      (0 < k → ∃ c0, s.countAt 0 = some c0 ∧ (k : Int) ≤ N - c0 + 1) ∧
      ∀ c ∈ [lookupArgs base, lookupArgs head] ++ new, isDiff c = false ∧
        (isProbe c = true → ∃ b h, c = probeArgs b h ∧ RefOf base b ∧ RefOf head h) := by
  refine ⟨?_, fun hk => by simpa [count_countArgs_lookups] using hsr.bounded hk, fun c hc => ?_⟩
  · rw [List.filter_append, hsr.deepens]
    simp [(lookupArgs_quiet base).2.2, (lookupArgs_quiet head).2.2]
  · rcases List.mem_append.mp hc with hc | hc
    · have hl : c = lookupArgs base ∨ c = lookupArgs head := by simpa using hc
      rcases hl with rfl | rfl
      · simp [(lookupArgs_quiet base).1, (lookupArgs_quiet base).2.1]
      · simp [(lookupArgs_quiet head).1, (lookupArgs_quiet head).2.1]
    · exact hsr.quiet hc

/-- The first lookups, then a search that failed. -/
theorem of_search_error {b0 h0 : Option String} {new : List (List String)} {e : GitError}
    {k : Nat} (hb0 : b0 = (s.answer [] (lookupArgs base)).found base)
    (hsr : SearchRun s N base head depth b0 h0 [lookupArgs base, lookupArgs head] new (.error e) k) :
    ChangesRun s N base head depth ([lookupArgs base, lookupArgs head] ++ new) (.error e) k := by
  obtain ⟨hdeep, hk, hquiet⟩ := of_search_prefix hsr
  refine ⟨hdeep, hk, fun c hc => (hquiet c hc).2, fun c hc hd => ?_, ?_, by simp,
    fun e' he' hnf => ?_⟩
  · simp [(hquiet c hc).1] at hd
  · rw [List.countP_eq_zero.mpr fun c hc => by simp [(hquiet c hc).1]]
    omega
  · cases he'
    obtain ⟨htag, hname, hbase⟩ := hsr.missing e rfl hnf
    refine ⟨List.mem_append_right _ htag, fun hnone => ?_, fun hsome => ?_⟩
    · by_cases hne : base = head
      · rcases hname with h | h
        · exact h
        · rw [hne]; exact h
      · rw [findsNothing_lookups hne, ← hb0] at hnone
        exact (hbase hne).mpr hnone
    · by_cases hne : base = head
      · rcases hname with h | h
        · rw [← hne]; exact h
        · exact h
      · rcases hname with h | h
        · rw [findsNothing_lookups hne, ← hb0] at hsome
          exact absurd ((hbase hne).mp h) hsome
        · exact h

/-- The first lookups, a search that gave its refs, and the diff. -/
theorem of_search_ok {b0 h0 : Option String} {new : List (List String)} {b h : String}
    {orphan : Bool} {k : Nat} {r : Except GitError (List ChangedFile)}
    (hb0 : b0 = (s.answer [] (lookupArgs base)).found base)
    (hh0 : h0 = (s.answer [lookupArgs base] (lookupArgs head)).found head)
    (hsr : SearchRun s N base head depth b0 h0 [lookupArgs base, lookupArgs head] new
      (.ok (b, h, orphan)) k)
    (hr : ∀ e, r = .error e → e.code ≠ .notFound) :
    ChangesRun s N base head depth ([lookupArgs base, lookupArgs head] ++ new ++
      [diffRangeArgs (if orphan = true then b ++ ".." ++ h else b ++ "..." ++ h)]) r k := by
  obtain ⟨hdeep, hk, hquiet⟩ := of_search_prefix hsr
  obtain ⟨hb, hh, hfb, hfh, pre, hnew, hprobe, hfetch⟩ := hsr.ends b h orphan rfl
  -- The diff comes after everything the search ran.
  have hnodiff : ([lookupArgs base, lookupArgs head] ++ new).countP isDiff = 0 :=
    List.countP_eq_zero.mpr fun c hc => by simp [(hquiet c hc).1]
  refine ⟨?_, hk, fun c hc hp => ?_, fun c hc hd => ?_, ?_, fun files _ => ?_,
    fun e he hnf => absurd hnf (hr e he)⟩
  · rw [List.filter_append, hdeep]
    simp
  · rcases List.mem_append.mp hc with hc | hc
    · exact (hquiet c hc).2 hp
    · rw [List.mem_singleton.mp hc] at hp
      simp at hp
  · rcases List.mem_append.mp hc with hc | hc
    · simp [(hquiet c hc).1] at hd
    · refine ⟨b, h, hb, hh, ?_⟩
      rw [List.mem_singleton.mp hc]
      cases orphan
      · exact .inl rfl
      · exact .inr rfl
  · rw [List.countP_append, hnodiff]
    simp
  · -- A ref that no lookup found would have been `none` first and after the search.
    refine ⟨fun hfn => ?_, fun hfn => ?_, [lookupArgs base, lookupArgs head] ++ pre, b, h, hb, hh,
      ?_, ?_⟩
    · obtain ⟨hfirst, -, hnew⟩ := findsNothing_of_lookups hfn
      rw [findsNothing_lookup, ← hb0] at hfirst
      exact hfb ⟨hfirst, hnew⟩
    · obtain ⟨-, hsecond, hnew⟩ := findsNothing_of_lookups hfn
      rw [findsNothing_lookup, ← hh0] at hsecond
      exact hfh ⟨hsecond, hnew⟩
    · rw [hnew, ← List.append_assoc, List.countP_append] at hnodiff
      omega
    · rw [hnew]
      cases orphan
      · exact .inl ⟨by simp, by simpa using hprobe⟩
      · have hlk : ∀ name, (lookupArgs name == ["fetch"]) = false := by
          intro name
          unfold lookupArgs
          split <;> simp
        refine .inr ⟨by simp, by simpa using hprobe, ?_⟩
        have := hfetch rfl
        rw [hnew] at this
        simp [List.count_cons, hlk, diffRangeArgs] at this ⊢
        exact this

end ChangesRun

/-- Looking for the changes since the merge-base, against any script whose
    commit counts never fall and never pass `N`: every bound on the rounds
    past `N - c0`, `c0` the first count, gives one and the same run, and
    `ChangesRun` says what it did. -/
theorem merge_base_search {s : Script} {N : Int} (hs : s.CountsBelow N) (base head : String)
    (depth : Int) :
    ∃ cmds r L, ∃ k : Nat,
      (∀ rounds : Nat, (∀ c0, s.countAt 0 = some c0 → N - c0 < rounds) →
        Runs (sinceMergeBase rounds base head depth) s [] cmds r L) ∧
      ChangesRun s N base head depth cmds r k := by
  obtain ⟨rb, Lb, hlb, hbok, hberr⟩ := runs_localRef base s []
  cases rb with
  | error e =>
    refine ⟨[lookupArgs base], .error e, Lb, 0, fun rounds _ => ?_,
      .of_lookups (by simp) (hberr e rfl)⟩
    unfold sinceMergeBase
    exact hlb.bind_error
  | ok b0 =>
  obtain ⟨rh, Lh, hlh, hhok, hherr⟩ := runs_localRef head s [lookupArgs base]
  cases rh with
  | error e =>
    refine ⟨[lookupArgs base, lookupArgs head], .error e, Lh ∘ Lb, 0, fun rounds _ => ?_,
      .of_lookups (by simp) (hherr e rfl)⟩
    unfold sinceMergeBase
    exact hlb.bind_ok hlh.bind_error
  | ok h0 =>
  have hb0 := hbok b0 rfl
  have hh0 := hhok h0 rfl
  obtain ⟨new, r, L, k, hsearch, hsr⟩ := runs_searchMergeBase hs base head depth b0 h0
    (fun x hx => refOf_found (hb0 ▸ hx)) (fun y hy => refOf_found (hh0 ▸ hy))
    [lookupArgs base, lookupArgs head]
  rw [count_countArgs_lookups] at hsearch
  cases r with
  | error e =>
    exact ⟨[lookupArgs base, lookupArgs head] ++ new, .error e, _, k, fun rounds hr => by
      unfold sinceMergeBase
      exact hlb.bind_ok (hlh.bind_ok ((hsearch rounds hr).grouped _).bind_error),
      .of_search_error hb0 hsr⟩
  | ok res =>
  obtain ⟨b, h, orphan⟩ := res
  obtain ⟨rd, Ld, hdiff, hderr⟩ := runs_diff (if orphan = true then b ++ ".." ++ h else b ++ "..." ++ h)
    s ([lookupArgs base, lookupArgs head] ++ new)
  -- The diff runs in its own group, after a warning when there is no merge-base.
  obtain ⟨L', hrun⟩ : ∃ L', ∀ rounds : Nat, (∀ c0, s.countAt 0 = some c0 → N - c0 < rounds) →
      Runs (sinceMergeBase rounds base head depth) s []
        ([lookupArgs base] ++ ([lookupArgs head] ++ (new ++
          [diffRangeArgs (if orphan = true then b ++ ".." ++ h else b ++ "..." ++ h)]))) rd L' := by
    cases orphan
    · exact ⟨_, fun rounds hr => by
        unfold sinceMergeBase
        exact hlb.bind_ok (hlh.bind_ok (((hsearch rounds hr).grouped _).bind_ok (hdiff.grouped _)))⟩
    · exact ⟨_, fun rounds hr => by
        unfold sinceMergeBase
        exact hlb.bind_ok (hlh.bind_ok (((hsearch rounds hr).grouped _).bind_ok
          ((runs_logAt _ _ _ s _).bind_ok_nil (hdiff.grouped _))))⟩
  exact ⟨_, rd, L', k, fun rounds hr => (hrun rounds hr).of_eq (by simp) rfl,
    .of_search_ok hb0 hh0 hsr hderr⟩

/-- A script whose commit count grows from three to five, and a search against it. -/
theorem merge_base_search_three_five :
    Script.CountsBelow ⟨[(countArgs, [.exited 0 "3" "", .exited 0 "5" ""])]⟩ 5 ∧
      ∃ cmds r L, ∃ k : Nat,
        (∀ rounds : Nat, (∀ c0, Script.countAt ⟨[(countArgs, [.exited 0 "3" "", .exited 0 "5" ""])]⟩ 0 =
            some c0 → 5 - c0 < rounds) →
          Runs (sinceMergeBase rounds "main" "feature" 1)
            ⟨[(countArgs, [.exited 0 "3" "", .exited 0 "5" ""])]⟩ [] cmds r L) ∧
        ChangesRun ⟨[(countArgs, [.exited 0 "3" "", .exited 0 "5" ""])]⟩ 5 "main" "feature" 1 cmds r k :=
  -- The first count is three, and every later one five: the last reply repeats.
  have hcount : ∀ n, Script.countAt ⟨[(countArgs, [.exited 0 "3" "", .exited 0 "5" ""])]⟩ n =
      some (if n = 0 then 3 else 5) := by
    intro n
    rcases n with _ | _ | n
    · rfl
    · rfl
    · rfl
  have hs : Script.CountsBelow ⟨[(countArgs, [.exited 0 "3" "", .exited 0 "5" ""])]⟩ 5 := by
    constructor
    · intro m n a c hmn ha hc
      rw [hcount, Option.some.injEq] at ha hc
      split at ha <;> split at hc <;> omega
    · intro n c hc
      rw [hcount, Option.some.injEq] at hc
      split at hc <;> omega
  ⟨hs, merge_base_search hs "main" "feature" 1⟩

end ChangeFilter.Git
