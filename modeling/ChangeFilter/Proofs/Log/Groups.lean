import Mathlib
import ChangeFilter.Proofs.Log.Steps
import ChangeFilter.Git.Changes
import ChangeFilter.Run.Workspace
import ChangeFilter.Output.Export

/-! # Log groups of change detection and of the match report

    Every way of listing changes from git writes its log groups one at a
    time, whatever git replies and also when a command fails: a lookup, a
    merge-base search and a diff each have their group, closed before the
    next one opens, and nothing that runs inside a group opens another. The
    report of a match does the same, one group per filter.

    The proof follows the call graph bottom up. What runs inside a group
    only writes lines (`Plain`): one command (`logsBy_run`), the lookups and
    probes built from commands, and the whole merge-base search
    (`logsBy_searchMergeBase`). Each listing is then a sequence of lines and
    of groups around such bodies (`LogsBy.grouped`), which `Alternates`
    accepts.

    Main statement: `log_groups_one_at_a_time`, for the six git listings and
    the match report, from every state. -/

namespace ChangeFilter

namespace Git

/-! ## Commands only write lines -/

theorem updatesLog_session : UpdatesLog GitError Session.log :=
  fun _ _ => ⟨_, rfl, rfl⟩

private theorem git_id_bind {α β : Type} (x : Id α) (f : α → Id β) : x >>= f = f x :=
  rfl

private theorem git_run_logAt (level : Level) (msg : String) (extra : Context) (st : Session) :
    (logAt level msg extra : GitM Unit).run.run st =
      (.ok (), { st with log := st.log.write level msg extra }) :=
  rfl

private theorem git_run_get (st : Session) : (get : GitM Session).run.run st = (.ok st, st) :=
  rfl

private theorem git_run_set (st st' : Session) :
    (set st' : GitM PUnit).run.run st = (.ok ⟨⟩, st') :=
  rfl

/-- A command, whatever its reply, writes one line at `DEBUG` and is
    recorded. -/
theorem run_state (args : List String) (check : Bool) (st : Session) :
    ((run args check).run.run st).2 =
      { st with log := st.log.write .debug "Running git"
                  [("command", .str (" ".intercalate ("git" :: args)))],
                commands := st.commands.push args } := by
  simp only [run, logDebug, git_run_logAt, ExceptT.run_bind, StateT.run_bind, git_id_bind,
    git_run_get, git_run_set]
  -- the reply only decides the result
  split
  · rfl
  · rfl
  · split <;> rfl

theorem logsBy_run (args : List String) (check : Bool) :
    LogsBy Session.log Plain (run args check) :=
  fun st => ⟨_, plain_write _ _ _, by rw [run_state]; rfl⟩

/-! ## What runs inside a group only writes lines -/

/-- A command whose output is read by a pure function. -/
theorem logsBy_run_map {α : Type} (args : List String) (check : Bool) (f : Completed → α) :
    LogsBy Session.log Plain (do let r ← run args check; pure (f r)) :=
  (logsBy_run args check).bind plain_closed fun _ => LogsBy.pure plain_closed _

theorem logsBy_diff (revisions : List String) : LogsBy Session.log Plain (diff revisions) :=
  logsBy_run_map _ _ _

theorem logsBy_localRef (name : String) : LogsBy Session.log Plain (localRef name) := by
  unfold localRef hasCommit
  split
  · exact (logsBy_run_map _ _ _).bind plain_closed fun _ => LogsBy.pure plain_closed _
  · exact logsBy_run_map _ _ _

theorem logsBy_hasMergeBase (b h : Option String) : LogsBy Session.log Plain (hasMergeBase b h) := by
  cases b <;> cases h
  all_goals first
    | exact LogsBy.pure plain_closed false
    | exact logsBy_run_map _ _ _

theorem logsBy_countCommits : LogsBy Session.log Plain countCommits :=
  logsBy_run_map _ _ _

theorem logsBy_lastAttempt (b h : String) : LogsBy Session.log Plain (lastAttempt b h) :=
  (LogsBy.logAt updatesLog_session _ _ _).bind plain_closed fun _ =>
    (LogsBy.logAt updatesLog_session _ _ _).bind plain_closed fun _ =>
      (logsBy_run _ _).bind plain_closed fun _ =>
        (logsBy_hasMergeBase _ _).bind plain_closed fun _ => LogsBy.pure plain_closed _

/-- The deepening rounds only write lines, by induction on the rounds left. -/
theorem logsBy_deepen (base head b h : String) :
    ∀ rounds depth last, LogsBy Session.log Plain (deepen base head b h rounds depth last)
  | 0, _, _ => logsBy_lastAttempt b h
  | rounds + 1, depth, last => by
    unfold deepen
    refine (logsBy_hasMergeBase _ _).bind plain_closed fun found => ?_
    split
    · exact LogsBy.pure plain_closed _
    · refine (logsBy_run _ _).bind plain_closed fun _ => ?_
      refine logsBy_countCommits.bind plain_closed fun count => ?_
      split
      · exact logsBy_lastAttempt b h
      · exact logsBy_deepen base head b h rounds _ count

/-- A ref kept when there is one, else looked up, then used. -/
theorem logsBy_orLookup_bind {α : Type} (name : String) (r : Option String)
    {k : Option String → GitM α} (hk : ∀ y, LogsBy Session.log Plain (k y)) :
    LogsBy Session.log Plain (match r with
      | some r => pure (some r) >>= k
      | none => localRef name >>= k) := by
  cases r
  · exact (logsBy_localRef name).bind plain_closed hk
  · exact (LogsBy.pure plain_closed _).bind plain_closed hk

/-- A ref kept when there is one, else fetched and looked up again, then
    used. -/
theorem logsBy_orFetch_bind {α : Type} (args : List String) (check : Bool) (name : String)
    (r : Option String) {k : Option String → GitM α} (hk : ∀ y, LogsBy Session.log Plain (k y)) :
    LogsBy Session.log Plain (match r with
      | some r => pure (some r) >>= k
      | none => run args check >>= fun _ => localRef name >>= k) := by
  cases r
  · exact (logsBy_run args check).bind plain_closed fun _ =>
      (logsBy_localRef name).bind plain_closed hk
  · exact (LogsBy.pure plain_closed _).bind plain_closed hk

/-- Two refs used when both are there, else resolved, then used. -/
theorem logsBy_pair_bind {β : Type} (b h : Option String)
    {resolve : Option String → Option String → GitM (String × String)}
    {k : String × String → GitM β} (hres : ∀ x y, LogsBy Session.log Plain (resolve x y))
    (hk : ∀ p, LogsBy Session.log Plain (k p)) :
    LogsBy Session.log Plain (match b, h with
      | some b, some h => pure (b, h) >>= k
      | x, y => resolve x y >>= k) := by
  cases b <;> cases h
  all_goals first
    | exact (LogsBy.pure plain_closed _).bind plain_closed hk
    | exact (hres _ _).bind plain_closed hk

theorem logsBy_resolveAfterFetch (base head : String) (b h : Option String) :
    LogsBy Session.log Plain (resolveAfterFetch base head b h) := by
  unfold resolveAfterFetch
  refine logsBy_orLookup_bind base b fun b => ?_
  beta_reduce
  refine logsBy_orLookup_bind head h fun h => ?_
  beta_reduce
  -- both refs are there, else tags are fetched and the missing ones looked up
  split
  · exact LogsBy.pure plain_closed _
  · refine (logsBy_run _ _).bind plain_closed fun _ => ?_
    refine logsBy_orLookup_bind base b fun b => ?_
    beta_reduce
    refine logsBy_orLookup_bind head h fun h => ?_
    beta_reduce
    split
    · exact LogsBy.pure plain_closed _
    · exact LogsBy.throw plain_closed _
    · exact LogsBy.throw plain_closed _

/-- The whole merge-base search, which runs inside one group, only writes
    lines: its lookups after the first fetch open no group of their own. -/
theorem logsBy_searchMergeBase (rounds : Nat) (base head : String) (depth : Int)
    (b h : Option String) : LogsBy Session.log Plain (searchMergeBase rounds base head depth b h) := by
  unfold searchMergeBase
  refine (logsBy_hasMergeBase b h).bind plain_closed fun found => ?_
  split
  · split <;> exact LogsBy.pure plain_closed _
  · refine (logsBy_run _ _).bind plain_closed fun _ => ?_
    refine logsBy_pair_bind b h (fun _ _ => logsBy_resolveAfterFetch base head b h) fun refs => ?_
    obtain ⟨b, h⟩ := refs
    beta_reduce
    refine logsBy_countCommits.bind plain_closed fun last => ?_
    exact (logsBy_deepen base head b h rounds depth last).bind plain_closed fun _ =>
      LogsBy.pure plain_closed _

/-! ## Each listing writes its groups one at a time -/

theorem logsBy_ensureRef (name : String) : LogsBy Session.log (Alternates false) (ensureRef name) := by
  unfold ensureRef
  refine LogsBy.grouped updatesLog_session _ ?_
  refine (logsBy_localRef name).bind plain_closed fun r => ?_
  -- fetched as a branch when missing, then as a tag when still missing
  refine logsBy_orFetch_bind _ _ name r fun r => ?_
  beta_reduce
  refine logsBy_orFetch_bind _ _ name r fun r => ?_
  beta_reduce
  split
  · exact LogsBy.pure plain_closed _
  · exact LogsBy.throw plain_closed _

theorem logsBy_lastCommit : LogsBy Session.log (Alternates false) lastCommit :=
  (LogsBy.grouped updatesLog_session _ (logsBy_run _ _)).bind alternates_closed fun _ =>
    LogsBy.pure alternates_closed _

theorem logsBy_between (base head : String) :
    LogsBy Session.log (Alternates false) (between base head) :=
  (logsBy_ensureRef base).bind alternates_closed fun _ =>
    (logsBy_ensureRef head).bind alternates_closed fun _ =>
      LogsBy.grouped updatesLog_session _ (logsBy_diff _)

theorem logsBy_onHead : LogsBy Session.log (Alternates false) onHead :=
  LogsBy.grouped updatesLog_session _ (logsBy_diff _)

theorem logsBy_allAdded : LogsBy Session.log (Alternates false) allAdded :=
  (LogsBy.grouped updatesLog_session _ (logsBy_run _ _)).bind alternates_closed fun _ =>
    LogsBy.pure alternates_closed _

theorem logsBy_currentRef : LogsBy Session.log (Alternates false) currentRef := by
  unfold currentRef
  refine LogsBy.grouped updatesLog_session _ ?_
  refine (logsBy_run _ _).bind plain_closed fun branch => ?_
  dsimp only
  split
  · exact LogsBy.pure plain_closed _
  · refine (logsBy_run _ _).bind plain_closed fun tag => ?_
    split
    · exact LogsBy.pure plain_closed _
    · exact logsBy_run_map _ _ _

/-- The search has one group and the diff another; the warning between them
    stands outside both. -/
theorem logsBy_sinceMergeBase (rounds : Nat) (base head : String) (depth : Int) :
    LogsBy Session.log (Alternates false) (sinceMergeBase rounds base head depth) := by
  unfold sinceMergeBase
  refine (logsBy_localRef base).alternates.bind alternates_closed fun b => ?_
  refine (logsBy_localRef head).alternates.bind alternates_closed fun h => ?_
  refine (LogsBy.grouped updatesLog_session _
    (logsBy_searchMergeBase rounds base head depth b h)).bind alternates_closed fun found => ?_
  obtain ⟨b, h, orphan⟩ := found
  dsimp only
  split
  · exact (LogsBy.logAt updatesLog_session _ _ _).alternates.bind alternates_closed fun _ =>
      LogsBy.grouped updatesLog_session _ (logsBy_diff _)
  · exact LogsBy.grouped updatesLog_session _ (logsBy_diff _)

end Git

/-! ## The match report writes one group per filter -/

namespace Output

theorem updatesLog_workspace : UpdatesLog Failure Workspace.log :=
  fun _ _ => ⟨_, rfl, rfl⟩

theorem logsBy_reportFilter (name : String) (files : List ChangedFile) :
    LogsBy Workspace.log (Alternates false) (reportFilter name files : RunM Unit) := by
  unfold reportFilter
  refine LogsBy.grouped updatesLog_workspace _ ?_
  split
  · exact LogsBy.logAt updatesLog_workspace _ _ _
  · exact (LogsBy.logAt updatesLog_workspace _ _ _).bind plain_closed fun _ =>
      LogsBy.forM plain_closed (fun _ => LogsBy.logAt updatesLog_workspace _ _ _) files

theorem logsBy_buildOutputs (results : List (String × List ChangedFile)) (fmt : ListFormat) :
    LogsBy Workspace.log (Alternates false) (buildOutputs results fmt : RunM _) := by
  have hline : ∀ level msg extra,
      LogsBy Workspace.log (Alternates false) (logAt level msg extra : RunM Unit) :=
    fun level msg extra => (LogsBy.logAt updatesLog_workspace level msg extra).alternates
  unfold buildOutputs
  refine (hline _ _ _).bind alternates_closed fun _ => ?_
  refine (LogsBy.forIn alternates_closed ?_ results _).bind alternates_closed fun _ => ?_
  · -- each turn reports its filter in a group, then only computes
    intro r s
    refine (logsBy_reportFilter _ _).bind alternates_closed fun _ => ?_
    split <;> split <;> exact LogsBy.pure alternates_closed _
  · split
    · exact (hline _ _ _).bind alternates_closed fun _ => LogsBy.pure alternates_closed _
    · exact (hline _ _ _).bind alternates_closed fun _ => LogsBy.pure alternates_closed _

end Output

/-! ## Groups one at a time -/

/-- Every git listing (of the last commit, between two refs, of the working
    tree, since a merge-base, of every tracked file) and the lookup of the
    checked-out ref, from every session (any script of replies, including
    failing ones, any commands run before and any log), and the report of
    every match in every workspace, change the log by steps that write their
    groups one at a time: the group markers are an opening and a closing,
    repeated; each group opens with the frames the log began with, so inside
    no other group of the call; no group is left open, whether the call
    returns or fails; and the lines written are those of the steps, in
    order. -/
theorem log_groups_one_at_a_time :
    LogsBy Git.Session.log OneGroupAtATime Git.lastCommit ∧
      (∀ base head, LogsBy Git.Session.log OneGroupAtATime (Git.between base head)) ∧
      LogsBy Git.Session.log OneGroupAtATime Git.onHead ∧
      (∀ rounds base head depth,
        LogsBy Git.Session.log OneGroupAtATime (Git.sinceMergeBase rounds base head depth)) ∧
      LogsBy Git.Session.log OneGroupAtATime Git.allAdded ∧
      LogsBy Git.Session.log OneGroupAtATime Git.currentRef ∧
      (∀ results fmt,
        LogsBy Workspace.log OneGroupAtATime (Output.buildOutputs results fmt : RunM _)) := by
  have hone : ∀ steps, Alternates false steps → OneGroupAtATime steps :=
    fun _ h => h.oneGroupAtATime
  exact ⟨Git.logsBy_lastCommit.mono hone, fun base head => (Git.logsBy_between base head).mono hone,
    Git.logsBy_onHead.mono hone,
    fun rounds base head depth => (Git.logsBy_sinceMergeBase rounds base head depth).mono hone,
    Git.logsBy_allAdded.mono hone, Git.logsBy_currentRef.mono hone,
    fun results fmt => (Output.logsBy_buildOutputs results fmt).mono hone⟩

end ChangeFilter
