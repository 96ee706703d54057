import Mathlib
import ChangeFilter.Git.Changes

/-! # Runs of git computations against a script

    Every reply a git computation gets is fixed by the script and by how often
    its argument list was run before; the log only records. So a run is
    described by the commands it issues, how it ends and what it does to the
    log, whatever the log was: `Runs x s cs new r L` says that `x`, started
    with script `s` after the commands `cs`, issues exactly `new`, ends with
    `r` and changes the log by `L`.

    Runs compose along `bind`, `tryCatch` and log groups (`Runs.bind_ok`,
    `Runs.grouped`); one lemma per git operation then says which commands it
    issues and what it gives back, in terms of the replies those commands get
    (`Script.answer`):

    * `runs_run` — one command;
    * `runs_hasMergeBase` — a merge-base probe, true when it exits with zero;
    * `runs_countCommits` — the commit count (`Script.countAt`);
    * `runs_localRef` — a lookup, whose ref always names what was looked up
      (`RefOf`, `refOf_found`). -/

namespace ChangeFilter.Git

/-! ## Runs -/

section Runs

variable {α β : Type}

/-- Started with script `s` after the commands `cs`, `x` issues the commands
    `new`, ends with `r` and changes the log by `L`. -/
def Runs (x : GitM α) (s : Script) (cs new : List (List String)) (r : Except GitError α)
    (L : Log → Log) : Prop :=
  ∀ log, x.run.run ⟨s, cs.toArray, log⟩ = (r, ⟨s, (cs ++ new).toArray, L log⟩)

theorem Runs.of_eq {x : GitM α} {s cs n n' r r' L} (h : Runs x s cs n r L) (hn : n = n')
    (hr : r = r') : Runs x s cs n' r' L :=
  hn ▸ hr ▸ h

theorem runs_pure (a : α) (s : Script) (cs : List (List String)) :
    Runs (pure a : GitM α) s cs [] (.ok a) id :=
  fun log => by simp; rfl

theorem runs_throw (e : GitError) (s : Script) (cs : List (List String)) :
    Runs (throw e : GitM α) s cs [] (.error e) id :=
  fun log => by simp; rfl

theorem Runs.bind_ok {x : GitM α} {f : α → GitM β} {s cs n₁ n₂ a r L₁ L₂}
    (hx : Runs x s cs n₁ (.ok a) L₁) (hf : Runs (f a) s (cs ++ n₁) n₂ r L₂) :
    Runs (x >>= f) s cs (n₁ ++ n₂) r (L₂ ∘ L₁) := by
  intro log
  simp only [ExceptT.run_bind, StateT.run_bind, hx log]
  rw [← List.append_assoc]
  exact hf (L₁ log)

/-- A first step that issues nothing. -/
theorem Runs.bind_ok_nil {x : GitM α} {f : α → GitM β} {s cs n a r L₁ L₂}
    (hx : Runs x s cs [] (.ok a) L₁) (hf : Runs (f a) s cs n r L₂) :
    Runs (x >>= f) s cs n r (L₂ ∘ L₁) := by
  simpa using hx.bind_ok (f := f) (by simpa using hf)

theorem Runs.bind_error {x : GitM α} {f : α → GitM β} {s cs n e L}
    (hx : Runs x s cs n (.error e) L) : Runs (x >>= f) s cs n (.error e) L := by
  intro log
  simp only [ExceptT.run_bind, StateT.run_bind, hx log]
  rfl

/-- A step whose result is handed through a pure function. -/
theorem Runs.bind_pure {x : GitM α} {f : α → β} {s cs n r L} (hx : Runs x s cs n r L) :
    Runs (x >>= fun a => pure (f a)) s cs n (r.map f) L := by
  cases r with
  | ok a =>
    exact (hx.bind_ok (f := fun a => pure (f a)) (runs_pure (f a) s _)).of_eq (List.append_nil n) rfl
  | error e => exact hx.bind_error

theorem Runs.tryCatch_ok {x : GitM α} {handler : GitError → GitM α} {s cs n a L}
    (hx : Runs x s cs n (.ok a) L) : Runs (tryCatch x handler) s cs n (.ok a) L := by
  intro log
  simp only [ExceptT.run_tryCatch, StateT.run_bind, hx log]
  rfl

theorem Runs.tryCatch_error {x : GitM α} (handler : GitError → GitM α) {s cs n₁ n₂ e r L₁ L₂}
    (hx : Runs x s cs n₁ (.error e) L₁) (hh : Runs (handler e) s (cs ++ n₁) n₂ r L₂) :
    Runs (tryCatch x handler) s cs (n₁ ++ n₂) r (L₂ ∘ L₁) := by
  intro log
  simp only [ExceptT.run_tryCatch, StateT.run_bind, hx log]
  rw [← List.append_assoc]
  exact hh (L₁ log)

theorem runs_updateLog (g : Log → Log) (s : Script) (cs : List (List String)) :
    Runs (MonadLog.updateLog g : GitM Unit) s cs [] (.ok ()) g :=
  fun log => by simp; rfl

theorem runs_logAt (level : Level) (msg : String) (extra : Context) (s : Script)
    (cs : List (List String)) :
    Runs (logAt level msg extra : GitM Unit) s cs [] (.ok ()) (·.write level msg extra) :=
  runs_updateLog _ s cs

/-- A log group issues what its body issues and ends as it ends: a failure
    closes the group and is raised again. -/
theorem Runs.grouped {body : GitM α} {s cs n r L} (title : String) (h : Runs body s cs n r L) :
    Runs (ChangeFilter.grouped title body) s cs n r (fun log => (L (log.openGroup title)).leave) := by
  have hleave := runs_updateLog Log.leave s (cs ++ n)
  have hbody : Runs (tryCatch (do let r ← body; MonadLog.updateLog Log.leave; pure r)
      (fun e => do MonadLog.updateLog Log.leave; throw e)) s cs n r (Log.leave ∘ L) := by
    cases r with
    | ok a =>
      apply Runs.tryCatch_ok
      exact (h.bind_ok (f := fun r => do MonadLog.updateLog Log.leave; pure r)
        (hleave.bind_ok_nil (f := fun _ => pure a) (runs_pure a s _))).of_eq (List.append_nil n) rfl
    | error e =>
      exact (h.bind_error.tryCatch_error (fun e => do MonadLog.updateLog Log.leave; throw e)
        (hleave.bind_ok_nil (f := fun _ => throw e) (runs_throw e s _))).of_eq
        (List.append_nil n) rfl
  exact (runs_updateLog _ s cs).bind_ok_nil (f := fun _ => tryCatch _ _) hbody

end Runs

/-! ## One command -/

/-- The reply a command gets when it is issued after the commands `pre`. -/
def Script.answer (s : Script) (pre : List (List String)) (args : List String) : Reply :=
  s.replyTo args (pre.count args)

/-- Whether a reply is an exit with code zero. -/
def Reply.succeeded : Reply → Bool
  | .exited code _ _ => code == 0
  | _ => false

private theorem run_logAt_gitM (level : Level) (msg : String) (extra : Context) (st : Session) :
    (logAt level msg extra : GitM Unit).run.run st =
      (.ok (), { st with log := st.log.write level msg extra }) :=
  rfl

private theorem run_get_gitM (st : Session) : (get : GitM Session).run.run st = (.ok st, st) :=
  rfl

private theorem run_set_gitM (st st' : Session) :
    (set st' : GitM PUnit).run.run st = (.ok ⟨⟩, st') :=
  rfl

private theorem id_bind_eq {α β : Type} (x : Id α) (f : α → Id β) : x >>= f = f x :=
  rfl

/-- One command: it is recorded, and it succeeds exactly when its reply is an
    exit, with code zero when the exit code is checked. A failure of a command
    is never a missing ref. -/
theorem runs_run (args : List String) (check : Bool) (s : Script) (cs : List (List String)) :
    ∃ r L, Runs (run args check) s cs [args] r L ∧
      (∀ c, r = .ok c ↔ s.answer cs args = .exited c.code c.stdout c.stderr ∧
        (check = true → c.code = 0)) ∧
      (∀ e, r = .error e → e.code ≠ .notFound) := by
  -- The command is recorded after one debug line; its reply decides the rest.
  let L : Log → Log := (·.write .debug "Running git" [("command", .str (" ".intercalate ("git" :: args)))])
  cases hr : s.answer cs args with
  | missing =>
    refine ⟨.error ⟨"git executable not found", "git" :: args, "", .dependencyError⟩, L,
      fun log => ?_, by simp, by simp⟩
    simp only [Script.answer] at hr
    simp only [run, logDebug, run_logAt_gitM, ExceptT.run_bind, StateT.run_bind, id_bind_eq,
      run_get_gitM, run_set_gitM, List.push_toArray, hr]
    rfl
  | timedOut =>
    refine ⟨.error ⟨"Command '" ++ " ".intercalate ("git" :: args) ++ "' timed out", "git" :: args,
      "", .internalError⟩, L, fun log => ?_, by simp, by simp⟩
    simp only [Script.answer] at hr
    simp only [run, logDebug, run_logAt_gitM, ExceptT.run_bind, StateT.run_bind, id_bind_eq,
      run_get_gitM, run_set_gitM, List.push_toArray, hr]
    rfl
  | exited code out err =>
    simp only [Script.answer] at hr
    by_cases hfail : (check && code != 0) = true
    · refine ⟨.error ⟨"Command '" ++ " ".intercalate ("git" :: args) ++ "' failed with exit code " ++
        toString code ++ ": " ++ Text.trimBlank err, "git" :: args, Text.trimBlank err,
        .dependencyError⟩, L, fun log => ?_, ?_, by simp⟩
      · simp only [run, logDebug, run_logAt_gitM, ExceptT.run_bind, StateT.run_bind, id_bind_eq,
          run_get_gitM, run_set_gitM, List.push_toArray, hr, hfail, if_true]
        rfl
      · intro c
        simp only [Bool.and_eq_true, bne_iff_ne] at hfail
        simp only [reduceCtorEq, false_iff, not_and, Reply.exited.injEq]
        intro hc hcode
        apply hfail.2
        rw [hc.1]
        exact hcode hfail.1
    · refine ⟨.ok ⟨code, out, err⟩, L, fun log => ?_, ?_, by simp⟩
      · simp only [run, logDebug, run_logAt_gitM, ExceptT.run_bind, StateT.run_bind, id_bind_eq,
          run_get_gitM, run_set_gitM, List.push_toArray, hr, hfail]
        rfl
      · intro c
        simp only [Bool.and_eq_true, bne_iff_ne, not_and, not_not] at hfail
        constructor
        · rintro ⟨⟩
          exact ⟨rfl, hfail⟩
        · rintro ⟨hc, -⟩
          cases c
          simp_all

/-! ## Probes and counts -/

/-- The probe for a merge-base of two refs. -/
def probeArgs (b h : String) : List String := ["merge-base", b, h]

/-- A probe of two resolved refs is true exactly when its reply is an exit
    with code zero. -/
theorem runs_hasMergeBase (b h : String) (s : Script) (cs : List (List String)) :
    ∃ r L, Runs (hasMergeBase (some b) (some h)) s cs [probeArgs b h] r L ∧
      (∀ p, r = .ok p → p = (s.answer cs (probeArgs b h)).succeeded) ∧
      (∀ e, r = .error e → e.code ≠ .notFound) := by
  obtain ⟨r, L, hrun, hok, herr⟩ := runs_run (probeArgs b h) false s cs
  cases r with
  | ok c =>
    have hreply := ((hok c).mp rfl).1
    have hprobe := (hrun.bind_ok (f := fun r => pure (r.code == 0)) (runs_pure _ s _)).of_eq
      (List.append_nil _) rfl
    refine ⟨.ok (c.code == 0), _, hprobe, ?_, by simp⟩
    intro p hp
    cases hp
    simp [hreply, Reply.succeeded]
  | error e =>
    exact ⟨.error e, L, hrun.bind_error, by simp, fun e' he' => by cases he'; exact herr e rfl⟩

/-- Without both refs there is no probe: the answer is false. -/
theorem runs_hasMergeBase_none {b h : Option String} (hbh : b = none ∨ h = none) (s : Script)
    (cs : List (List String)) : Runs (hasMergeBase b h) s cs [] (.ok false) id := by
  rcases hbh with rfl | rfl
  · exact runs_pure false s cs
  · cases b <;> exact runs_pure false s cs

/-- The command that counts the commits. -/
def countArgs : List String := ["rev-list", "--count", "--all"]

/-- The count read by the `n`-th run of the counting command, from zero; none
    when that run fails. -/
def Script.countAt (s : Script) (n : Nat) : Option Int :=
  match s.replyTo countArgs n with
  | .exited code out _ => if code = 0 then some (commitCount out) else none
  | _ => none

/-- Counting the commits reads the count of the counting command's next run,
    and fails when there is none. -/
theorem runs_countCommits (s : Script) (cs : List (List String)) :
    ∃ r L, Runs countCommits s cs [countArgs] r L ∧
      (∀ c, r = .ok c ↔ s.countAt (cs.count countArgs) = some c) ∧
      (∀ e, r = .error e → e.code ≠ .notFound) := by
  obtain ⟨r, L, hrun, hok, herr⟩ := runs_run countArgs true s cs
  cases r with
  | ok c =>
    obtain ⟨hreply, hcode⟩ := (hok c).mp rfl
    have h := (hrun.bind_ok (f := fun r => pure (commitCount r.stdout)) (runs_pure _ s _)).of_eq
      (List.append_nil _) rfl
    unfold countCommits
    refine ⟨.ok (commitCount c.stdout), _, h, fun n => ?_, by simp⟩
    simp only [Script.answer] at hreply
    simp [Script.countAt, hreply, hcode rfl, eq_comm]
  | error e =>
    refine ⟨.error e, L, hrun.bind_error, fun n => ?_,
      fun e' he' => by cases he'; exact herr e rfl⟩
    simp only [reduceCtorEq, false_iff, Script.countAt]
    -- A zero exit would have made the command succeed.
    cases hreply : s.replyTo countArgs (cs.count countArgs) with
    | exited code out err =>
      by_cases hcode : code = 0
      · have := (hok ⟨code, out, err⟩).mpr ⟨hreply, fun _ => hcode⟩
        cases this
      · simp [hcode]
    | missing | timedOut => simp

/-! ## Lookups -/

/-- The command that looks a name up: a SHA is checked for a commit, any other
    name is listed among the refs. -/
def lookupArgs (name : String) : List String :=
  if isSha name then ["cat-file", "-e", name ++ "^\x7bcommit\x7d"] else ["show-ref", name]

/-- The ref a lookup's reply gives a name: a SHA itself when the commit is
    present, else the preferred ref listed under the name. -/
def Reply.found (name : String) : Reply → Option String
  | .exited code out _ =>
    if isSha name then (if code = 0 then some name else none)
    else preferredRef (refsNamed out name)
  | _ => none

/-- A lookup gives the ref its reply names. -/
theorem runs_localRef (name : String) (s : Script) (cs : List (List String)) :
    ∃ r L, Runs (localRef name) s cs [lookupArgs name] r L ∧
      (∀ x, r = .ok x → x = (s.answer cs (lookupArgs name)).found name) ∧
      (∀ e, r = .error e → e.code ≠ .notFound) := by
  obtain ⟨r, L, hrun, hok, herr⟩ := runs_run (lookupArgs name) false s cs
  unfold localRef hasCommit
  by_cases hsha : isSha name = true
  · -- A SHA is checked for a commit.
    rw [if_pos hsha]
    have hargs : lookupArgs name = ["cat-file", "-e", name ++ "^\x7bcommit\x7d"] := by
      simp [lookupArgs, hsha]
    rw [hargs] at hrun hok ⊢
    cases r with
    | ok c =>
      have hreply := ((hok c).mp rfl).1
      have h := (hrun.bind_ok (f := fun r => pure (r.code == 0)) (runs_pure _ s _)).bind_ok
        (f := fun b => pure (if b then some name else none)) (runs_pure _ s _)
      rw [List.append_nil, List.append_nil] at h
      refine ⟨.ok (if c.code == 0 then some name else none), _, h, fun x hx => ?_, by simp⟩
      cases hx
      simp [hreply, Reply.found, hsha]
    | error e =>
      exact ⟨.error e, L, hrun.bind_error.bind_error, by simp,
        fun e' he' => by cases he'; exact herr e rfl⟩
  · -- Any other name is listed among the refs.
    rw [if_neg hsha]
    have hargs : lookupArgs name = ["show-ref", name] := by simp [lookupArgs, hsha]
    rw [hargs] at hrun hok ⊢
    cases r with
    | ok c =>
      have hreply := ((hok c).mp rfl).1
      have h := hrun.bind_ok (f := fun r => pure (preferredRef (refsNamed r.stdout name)))
        (runs_pure _ s _)
      rw [List.append_nil] at h
      refine ⟨.ok (preferredRef (refsNamed c.stdout name)), _, h, fun x hx => ?_, by simp⟩
      cases hx
      simp [hreply, Reply.found, hsha]
    | error e =>
      exact ⟨.error e, L, hrun.bind_error, by simp, fun e' he' => by cases he'; exact herr e rfl⟩

/-! ## Resolved refs -/

/-- A ref resolved for a short name or SHA: the SHA itself, or the name under a
    branch, tag or remote-tracking prefix. -/
def RefOf (name ref : String) : Prop :=
  (isSha name = true ∧ ref = name) ∨ ∃ p ∈ refPrefixes, ref = p ++ name

/-- The ref of a line is its short name under one of the prefixes. -/
theorem refOfLine_go_eq_some :
    ∀ {cs : List Char} {ref short : String}, refOfLine.go cs = some (ref, short) →
      ∃ p ∈ refPrefixes, ref = p ++ short
  | [], _, _, h => by simp [refOfLine.go] at h
  | c :: rest, ref, short, h => by
    simp only [refOfLine.go] at h
    cases hp : refPrefixes.find? (fun p => p.toList.isPrefixOf (c :: rest)) with
    | none =>
      rw [hp] at h
      exact refOfLine_go_eq_some h
    | some p =>
      rw [hp] at h
      simp only [Option.some.injEq, Prod.mk.injEq] at h
      obtain ⟨rfl, rfl⟩ := h
      have hpre := List.find?_some hp
      obtain ⟨t, ht⟩ := List.isPrefixOf_iff_prefix.mp hpre
      refine ⟨p, List.mem_of_find?_eq_some hp, ?_⟩
      rw [← ht, ← String.length_toList, List.drop_left, String.ofList_append,
        String.ofList_toList]

/-- Every ref listed under a name is that name under a prefix. -/
theorem eq_append_of_mem_refsNamed {out name ref : String} (h : ref ∈ refsNamed out name) :
    ∃ p ∈ refPrefixes, ref = p ++ name := by
  simp only [refsNamed, List.mem_filterMap] at h
  obtain ⟨line, -, hline⟩ := h
  split at hline
  · rename_i ref' short hl
    split at hline
    · rename_i hshort
      cases hline
      rw [beq_iff_eq] at hshort
      exact hshort ▸ refOfLine_go_eq_some hl
    · cases hline
  · cases hline

theorem mem_of_preferredRef_eq_some {refs : List String} {ref : String}
    (h : preferredRef refs = some ref) : ref ∈ refs := by
  unfold preferredRef at h
  split at h
  · rename_i r hr
    cases h
    exact List.mem_of_find?_eq_some hr
  · exact List.mem_of_mem_head? h

/-- The ref a lookup finds names what was looked up. -/
theorem refOf_found {name ref : String} {reply : Reply} (h : reply.found name = some ref) :
    RefOf name ref := by
  cases reply with
  | exited code out err =>
    by_cases hsha : isSha name = true
    · simp only [Reply.found, hsha, if_true] at h
      split at h
      · cases h
        exact .inl ⟨hsha, rfl⟩
      · cases h
    · simp only [Reply.found, hsha, if_false, Bool.false_eq_true] at h
      exact .inr (eq_append_of_mem_refsNamed (mem_of_preferredRef_eq_some h))
  | missing | timedOut => simp [Reply.found] at h

end ChangeFilter.Git
