import Mathlib
import ChangeFilter.Proofs.Git.Trace

/-! # Resolving the refs after the first fetch

    Refs that the first lookups did not find are looked up again after the
    first fetch, and once more after a fetch of tags. What a lookup finds
    names the ref looked up (`RefOf`); that no lookup of a name among some
    commands found a ref is `FindsNothing`.

    Main statements:
    * `runs_orLookup` — a ref kept when there is one, else looked up;
    * `runs_resolveAfterFetch` — the whole resolution, described by
      `ResolveRun`: each ref given was found by a lookup, and a missing ref
      fails only after the tag fetch, naming `base` exactly when no lookup
      found `base` (when the names differ). -/

namespace ChangeFilter.Git

/-! ## Lookups and what they find -/

/-- The fetch of tags that gives missing refs a last chance. -/
def tagArgs (base head : String) : List String :=
  ["fetch", "--tags", "--depth=1", "origin", base, head]

theorem lookupArgs_inj {a b : String} : lookupArgs a = lookupArgs b ↔ a = b := by
  constructor
  · intro h
    by_cases ha : isSha a = true <;> by_cases hb : isSha b = true <;>
      simp_all [lookupArgs]
  · rintro rfl
    rfl

theorem unresolved_inj {a b : String} : GitError.unresolved a = GitError.unresolved b ↔ a = b := by
  constructor
  · intro h
    have hmsg : "Could not determine what is " ++ a ++
        " - fetch works but it's not a branch, tag or commit SHA" = "Could not determine what is " ++
        b ++ " - fetch works but it's not a branch, tag or commit SHA" :=
      congrArg GitError.message h
    rwa [String.append_left_inj, String.append_right_inj] at hmsg
  · rintro rfl
    rfl

/-- No lookup of `name` among the commands `cmds`, issued after the commands
    `before`, found a ref. -/
def FindsNothing (s : Script) (name : String) (before cmds : List (List String)) : Prop :=
  ∀ pre post, cmds = pre ++ lookupArgs name :: post →
    (s.answer (before ++ pre) (lookupArgs name)).found name = none

section FindsNothing

variable {s : Script} {name : String} {before : List (List String)}

theorem findsNothing_of_forall_ne {cmds : List (List String)}
    (h : ∀ c ∈ cmds, c ≠ lookupArgs name) : FindsNothing s name before cmds := by
  intro pre post hcmds
  exact absurd rfl (h _ (by rw [hcmds]; simp))

theorem findsNothing_lookup :
    FindsNothing s name before [lookupArgs name] ↔
      (s.answer before (lookupArgs name)).found name = none := by
  constructor
  · intro h
    simpa using h [] [] rfl
  · intro h pre post hcmds
    -- The only command is the lookup, so nothing precedes it.
    obtain ⟨rfl, -⟩ : pre = [] ∧ post = [] := by
      cases pre with
      | nil => simpa using hcmds.symm
      | cons c pre => simp at hcmds
    simpa using h

theorem findsNothing_append {l₁ l₂ : List (List String)} :
    FindsNothing s name before (l₁ ++ l₂) ↔
      FindsNothing s name before l₁ ∧ FindsNothing s name (before ++ l₁) l₂ := by
  constructor
  · intro h
    refine ⟨fun pre post h₁ => h pre (post ++ l₂) (by simp [h₁]), fun pre post h₂ => ?_⟩
    rw [List.append_assoc]
    exact h (l₁ ++ pre) post (by simp [h₂])
  · rintro ⟨h₁, h₂⟩ pre post h
    -- The lookup stands either in `l₁` or in `l₂`.
    rcases List.append_eq_append_iff.mp h with ⟨a, rfl, ha⟩ | ⟨c, rfl, hc⟩
    · have := h₂ a post ha
      rwa [List.append_assoc] at this
    · cases c with
      | nil =>
        simp only [List.nil_append] at hc
        have := h₂ [] post hc.symm
        simpa using this
      | cons x c =>
        simp only [List.cons_append, List.cons.injEq] at hc
        exact h₁ pre c (by rw [hc.1])

theorem findsNothing_cons {c : List String} {l : List (List String)} :
    FindsNothing s name before (c :: l) ↔
      FindsNothing s name before [c] ∧ FindsNothing s name (before ++ [c]) l :=
  @findsNothing_append s name before [c] l

end FindsNothing

/-- Two optional refs that are not both there: one is missing. -/
theorem eq_none_or_eq_none {x y : Option String} (h : ¬ ∃ b c, x = some b ∧ y = some c) :
    x = none ∨ y = none := by
  cases x with
  | none => exact .inl rfl
  | some b =>
    cases y with
    | none => exact .inr rfl
    | some c => exact absurd ⟨b, c, rfl, rfl⟩ h

/-- A ref kept when there is one, else looked up: the lookup names the ref,
    and the result is missing exactly when the ref was and no lookup found
    one. -/
theorem runs_orLookup (name : String) (x : Option String) (s : Script) (cs : List (List String)) :
    ∃ new r L, Runs (match x with
        | some r => pure (some r)
        | none => localRef name : GitM (Option String)) s cs new r L ∧
      (∀ c ∈ new, c = lookupArgs name) ∧
      (∀ y, r = .ok y → (y = none ↔ x = none ∧ FindsNothing s name cs new)) ∧
      ((∀ v, x = some v → RefOf name v) → ∀ y, r = .ok y → ∀ v, y = some v → RefOf name v) ∧
      (∀ e, r = .error e → e.code ≠ .notFound) := by
  cases x with
  | some v =>
    refine ⟨[], .ok (some v), id, runs_pure _ s cs, by simp, fun y hy => ?_, ?_, by simp⟩
    · cases hy
      simp
    · intro hv y hy w hw
      cases hy
      exact hv w hw
  | none =>
    obtain ⟨r, L, hrun, hok, herr⟩ := runs_localRef name s cs
    refine ⟨_, r, L, hrun, by simp, fun y hy => ?_, fun _ y hy v hv => ?_, herr⟩
    · rw [hok y hy, findsNothing_lookup]
      simp
    · rw [hok y hy] at hv
      exact refOf_found hv

/-- A ref kept or looked up, then used: runs compose as for a bind. -/
theorem Runs.orLookup_bind {α : Type} {name : String} {x y : Option String}
    {k : Option String → GitM α} {s : Script} {cs n₁ n₂ : List (List String)}
    {r : Except GitError α} {L₁ L₂ : Log → Log}
    (hx : Runs (match x with
        | some r => pure (some r)
        | none => localRef name : GitM (Option String)) s cs n₁ (.ok y) L₁)
    (hk : Runs (k y) s (cs ++ n₁) n₂ r L₂) :
    Runs (match x with
        | some r => pure (some r) >>= k
        | none => localRef name >>= k) s cs (n₁ ++ n₂) r (L₂ ∘ L₁) := by
  cases x <;> exact hx.bind_ok hk

theorem Runs.orLookup_error {α : Type} {name : String} {x : Option String}
    {k : Option String → GitM α} {s : Script} {cs n : List (List String)} {e : GitError}
    {L : Log → Log}
    (hx : Runs (match x with
        | some r => pure (some r)
        | none => localRef name : GitM (Option String)) s cs n (.error e) L) :
    Runs (match x with
        | some r => pure (some r) >>= k
        | none => localRef name >>= k) s cs n (.error e) L := by
  cases x <;> exact hx.bind_error

/-- Two refs used when both are there, else handed on. -/
theorem Runs.pair_or {T : Option String → Option String → GitM (String × String)}
    {x y : Option String} {s : Script} {cs n : List (List String)}
    {r : Except GitError (String × String)} {L : Log → Log} (hxy : x = none ∨ y = none)
    (h : Runs (T x y) s cs n r L) :
    Runs (match x, y with
      | some b, some h => pure (b, h)
      | x, y => T x y) s cs n r L := by
  rcases hxy with rfl | rfl
  · exact h
  · cases x <;> exact h

/-! ## The resolution -/

/-- What resolving the refs missing after a first fetch did, from the refs
    `b0` and `h0` found before: it looked up only `base` and `head` and
    fetched only tags; the refs it gives name `base` and `head`, and each was
    found before or by one of its lookups; and it fails for a missing ref only
    after the tag fetch, naming `base` when no lookup found `base`, else
    `head`. -/
structure ResolveRun (s : Script) (base head : String) (b0 h0 : Option String)
    (cs new : List (List String)) (r : Except GitError (String × String)) : Prop where
  kinds : ∀ c ∈ new, c = lookupArgs base ∨ c = lookupArgs head ∨ c = tagArgs base head
  refs : ∀ b h, r = .ok (b, h) → RefOf base b ∧ RefOf head h
  found : ∀ b h, r = .ok (b, h) → ¬ (b0 = none ∧ FindsNothing s base cs new) ∧
    ¬ (h0 = none ∧ FindsNothing s head cs new)
  missing : ∀ e, r = .error e → e.code = .notFound →
    tagArgs base head ∈ new ∧ (e = .unresolved base ∨ e = .unresolved head) ∧
    (base ≠ head → (e = .unresolved base ↔ b0 = none ∧ FindsNothing s base cs new))

/-- Resolving the refs a first fetch left missing, from the refs found before
    (each naming its ref). -/
theorem runs_resolveAfterFetch (base head : String) (b0 h0 : Option String)
    (hb0 : ∀ x, b0 = some x → RefOf base x) (hh0 : ∀ y, h0 = some y → RefOf head y)
    (s : Script) (cs : List (List String)) :
    ∃ new r L, Runs (resolveAfterFetch base head b0 h0) s cs new r L ∧
      ResolveRun s base head b0 h0 cs new r := by
  -- A failed git command ends the resolution with an error that is no missing ref.
  have hgit : ∀ new e L, (∀ c ∈ new, c = lookupArgs base ∨ c = lookupArgs head ∨
      c = tagArgs base head) → e.code ≠ .notFound →
      Runs (resolveAfterFetch base head b0 h0) s cs new (.error e) L →
      ∃ new r L, Runs (resolveAfterFetch base head b0 h0) s cs new r L ∧
        ResolveRun s base head b0 h0 cs new r :=
    fun new e L hk he hr => ⟨new, .error e, L, hr, hk, by simp, by simp,
      fun e' he' hnf => absurd (by cases he'; exact hnf) he⟩
  obtain ⟨nb, rb, Lb, hrb, hkb, hnb, hrefb, herrb⟩ := runs_orLookup base b0 s cs
  cases rb with
  | error e =>
    exact hgit nb e Lb (fun c hc => .inl (hkb c hc)) (herrb e rfl)
      (by unfold resolveAfterFetch; exact hrb.orLookup_error)
  | ok b1 =>
  obtain ⟨nh, rh, Lh, hrh, hkh, hnh, hrefh, herrh⟩ := runs_orLookup head h0 s (cs ++ nb)
  cases rh with
  | error e =>
    refine hgit (nb ++ nh) e (Lh ∘ Lb) ?_ (herrh e rfl) ?_
    · intro c hc
      rcases List.mem_append.mp hc with hc | hc
      · exact .inl (hkb c hc)
      · exact .inr (.inl (hkh c hc))
    · unfold resolveAfterFetch
      exact hrb.orLookup_bind hrh.orLookup_error
  | ok h1 =>
  have hb1 := hrefb hb0 b1 rfl
  have hh1 := hrefh hh0 h1 rfl
  by_cases hboth : ∃ b h, b1 = some b ∧ h1 = some h
  · -- Both refs were found again by name.
    obtain ⟨b, h, rfl, rfl⟩ := hboth
    refine ⟨nb ++ (nh ++ []), .ok (b, h), (id ∘ Lh) ∘ Lb, ?_, ?_, ?_, fun _ _ _ => ⟨?_, ?_⟩,
      by simp⟩
    · unfold resolveAfterFetch
      exact hrb.orLookup_bind (hrh.orLookup_bind (runs_pure _ s _))
    · intro c hc
      simp only [List.append_nil, List.mem_append] at hc
      rcases hc with hc | hc
      · exact .inl (hkb c hc)
      · exact .inr (.inl (hkh c hc))
    · intro b' h' hbh
      simp only [Except.ok.injEq, Prod.mk.injEq] at hbh
      obtain ⟨rfl, rfl⟩ := hbh
      exact ⟨hb1 b rfl, hh1 h rfl⟩
    · rintro ⟨hb0n, hfn⟩
      have := (hnb (some b) rfl).mpr ⟨hb0n, (findsNothing_append.mp hfn).1⟩
      cases this
    · rintro ⟨hh0n, hfn⟩
      have := (hnh (some h) rfl).mpr
        ⟨hh0n, (findsNothing_append.mp (findsNothing_append.mp hfn).2).1⟩
      cases this
  have hxy : b1 = none ∨ h1 = none := eq_none_or_eq_none hboth
  -- Something is still missing: fetch the tags and look again.
  obtain ⟨rt, Lt, htag, -, herrt⟩ := runs_run (tagArgs base head) false s (cs ++ nb ++ nh)
  have hkinds : ∀ pre, (∀ c ∈ pre, c = lookupArgs base ∨ c = lookupArgs head) →
      ∀ c ∈ nb ++ (nh ++ ([tagArgs base head] ++ pre)),
        c = lookupArgs base ∨ c = lookupArgs head ∨ c = tagArgs base head := by
    intro pre hpre c hc
    simp only [List.mem_append, List.mem_singleton] at hc
    rcases hc with hc | hc | hc | hc
    · exact .inl (hkb c hc)
    · exact .inr (.inl (hkh c hc))
    · exact .inr (.inr hc)
    · rcases hpre c hc with h | h
      · exact .inl h
      · exact .inr (.inl h)
  cases rt with
  | error e =>
    refine hgit (nb ++ (nh ++ [tagArgs base head])) e ((Lt ∘ Lh) ∘ Lb)
      (by simpa using hkinds [] (by simp)) (herrt e rfl) ?_
    unfold resolveAfterFetch
    exact hrb.orLookup_bind (hrh.orLookup_bind (Runs.pair_or hxy htag.bind_error))
  | ok _ =>
  obtain ⟨nb2, rb2, Lb2, hrb2, hkb2, hnb2, hrefb2, herrb2⟩ :=
    runs_orLookup base b1 s (cs ++ nb ++ nh ++ [tagArgs base head])
  cases rb2 with
  | error e =>
    refine hgit (nb ++ (nh ++ ([tagArgs base head] ++ nb2))) e ((((Lb2 ∘ Lt) ∘ Lh) ∘ Lb))
      (hkinds nb2 fun c hc => .inl (hkb2 c hc)) (herrb2 e rfl) ?_
    unfold resolveAfterFetch
    exact hrb.orLookup_bind (hrh.orLookup_bind (Runs.pair_or hxy
      (htag.bind_ok hrb2.orLookup_error)))
  | ok b2 =>
  obtain ⟨nh2, rh2, Lh2, hrh2, hkh2, hnh2, hrefh2, herrh2⟩ :=
    runs_orLookup head h1 s (cs ++ nb ++ nh ++ [tagArgs base head] ++ nb2)
  have hkinds2 := hkinds (nb2 ++ nh2) fun c hc => by
    rcases List.mem_append.mp hc with hc | hc
    · exact .inl (hkb2 c hc)
    · exact .inr (hkh2 c hc)
  cases rh2 with
  | error e =>
    refine hgit (nb ++ (nh ++ ([tagArgs base head] ++ (nb2 ++ nh2)))) e
      ((((Lh2 ∘ Lb2) ∘ Lt) ∘ Lh) ∘ Lb) hkinds2 (herrh2 e rfl) ?_
    unfold resolveAfterFetch
    exact hrb.orLookup_bind (hrh.orLookup_bind (Runs.pair_or hxy
      (htag.bind_ok (hrb2.orLookup_bind hrh2.orLookup_error))))
  | ok h2 =>
  -- Only lookups of `base` can find `base` when the names differ.
  have hfinds : base ≠ head →
      (b0 = none ∧ FindsNothing s base cs (nb ++ (nh ++ ([tagArgs base head] ++ (nb2 ++ nh2)))) ↔
        b2 = none) := by
    intro hne
    have hhead : ∀ l : List (List String), (∀ c ∈ l, c = lookupArgs head) →
        ∀ before, FindsNothing s base before l := by
      intro l hl before
      refine findsNothing_of_forall_ne fun c hc hcb => hne ?_
      rw [hl c hc] at hcb
      exact (lookupArgs_inj.mp hcb).symm
    have htagne : FindsNothing s base (cs ++ nb ++ nh) [tagArgs base head] :=
      findsNothing_of_forall_ne fun c hc => by
        simp only [List.mem_singleton] at hc
        subst hc
        unfold tagArgs lookupArgs
        split <;> simp
    simp only [findsNothing_append, ← List.append_assoc]
    rw [hnb2 b2 rfl, hnb b1 rfl]
    simp only [hhead nh hkh, hhead nh2 hkh2, htagne, and_true, and_assoc]
  -- The last step, written with `Option.elim` so that each of its cases reduces as the
  -- definition's own case split does.
  have hrun : ∀ {r}, Runs (b2.elim (throw (GitError.unresolved base)) fun b =>
      h2.elim (throw (GitError.unresolved head)) fun h => pure (b, h)) s
        (cs ++ nb ++ nh ++ [tagArgs base head] ++ nb2 ++ nh2) [] r id →
      Runs (resolveAfterFetch base head b0 h0) s cs
        (nb ++ (nh ++ ([tagArgs base head] ++ (nb2 ++ nh2)))) r
        (((((id ∘ Lh2) ∘ Lb2) ∘ Lt) ∘ Lh) ∘ Lb) := by
    intro r hr
    unfold resolveAfterFetch
    rw [← List.append_nil nh2]
    cases b2 <;> cases h2 <;>
      exact hrb.orLookup_bind (hrh.orLookup_bind (Runs.pair_or hxy
        (htag.bind_ok (hrb2.orLookup_bind (hrh2.orLookup_bind hr)))))
  have hmem : tagArgs base head ∈ nb ++ (nh ++ ([tagArgs base head] ++ (nb2 ++ nh2))) := by simp
  cases b2 with
  | none =>
    -- `base` is still missing: it is named first.
    refine ⟨_, .error (.unresolved base), _, hrun (runs_throw _ s _), hkinds2, by simp, by simp,
      fun e he _ => ?_⟩
    cases he
    exact ⟨hmem, .inl rfl, fun hne => iff_of_true rfl ((hfinds hne).mpr rfl)⟩
  | some b =>
  cases h2 with
  | none =>
    refine ⟨_, .error (.unresolved head), _, hrun (runs_throw _ s _), hkinds2, by simp, by simp,
      fun e he _ => ?_⟩
    cases he
    refine ⟨hmem, .inr rfl, fun hne => ?_⟩
    rw [hfinds hne, unresolved_inj]
    simp [Ne.symm hne]
  | some h =>
    refine ⟨_, .ok (b, h), _, hrun (runs_pure _ s _), hkinds2, fun b' h' hbh => ?_,
      fun _ _ _ => ⟨?_, ?_⟩, by simp⟩
    · simp only [Except.ok.injEq, Prod.mk.injEq] at hbh
      obtain ⟨rfl, rfl⟩ := hbh
      exact ⟨hrefb2 hb1 _ rfl b rfl, hrefh2 hh1 _ rfl h rfl⟩
    · -- Nothing found before and no lookup finding `base` would have left it missing.
      rintro ⟨hb0n, hfn⟩
      simp only [findsNothing_append, ← List.append_assoc, and_assoc] at hfn
      have hb1n : b1 = none := (hnb b1 rfl).mpr ⟨hb0n, hfn.1⟩
      have := (hnb2 (some b) rfl).mpr ⟨hb1n, hfn.2.2.2.1⟩
      cases this
    · rintro ⟨hh0n, hfn⟩
      simp only [findsNothing_append, ← List.append_assoc, and_assoc] at hfn
      have hh1n : h1 = none := (hnh h1 rfl).mpr ⟨hh0n, hfn.2.1⟩
      have := (hnh2 (some h) rfl).mpr ⟨hh1n, hfn.2.2.2.2⟩
      cases this

end ChangeFilter.Git
