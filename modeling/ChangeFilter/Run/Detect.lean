import ChangeFilter.PullRequest
import ChangeFilter.Git.Output

/-! # Choosing the change source

    The settings choose where the change set comes from:

    * `base` set to `HEAD`: the uncommitted changes of the working tree;
    * pull request files set: that listing;
    * otherwise git history. The head is the configured ref, else the
      checked-out one; the base is the configured base, else the default
      branch; both without `refs/heads/` or `refs/tags/`, and a name that
      is empty after that counts as not configured.
      - A base that is a SHA, or equal to the head, is a push: the commit
        before it (`before`, or the SHA itself) is compared with the head.
        Without it the last commit is taken. When it is the null SHA the
        branch is new: it is compared with the default branch since their
        merge-base, or, without another default branch, every file is
        listed as added.
      - Otherwise the head is compared with the base since their merge-base. -/

namespace ChangeFilter

/-- Warns when the head is not the checked-out ref. -/
def warnNotCheckedOut (head current : String) : RunM Unit :=
  if head != current then
    logWarning ("Ref " ++ head ++ " is not checked out - results might be incorrect!") []
  else pure ()

/-- The change set of a push, from the commit before it. -/
def pushChanges (s : Settings) (base head current baseSha : String) (defaultBranch : Option String) :
    RunM (List ChangedFile) := do
  if baseSha.isEmpty then
    logWarning "'before' is not set - changes will be detected from last commit" []
    warnNotCheckedOut head current
    askChanges .lastCommit
  else if baseSha == Git.nullSha then
    match defaultBranch with
    | some db =>
      if base != db then
        logInfo ("First push of a branch detected - changes will be detected against the default branch " ++
          db) []
        askChanges (.sinceMergeBase db head s.fetchDepth)
      else
        logInfo "Initial push detected - all files will be listed as added" []
        warnNotCheckedOut head current
        askChanges .allAdded
    | none =>
      logInfo "Initial push detected - all files will be listed as added" []
      warnNotCheckedOut head current
      askChanges .allAdded
  else
    logInfo ("Changes will be detected between " ++ baseSha ++ " and " ++ head) []
    askChanges (.between baseSha head)

/-- The change set from git history. -/
def historyChanges (s : Settings) : RunM (List ChangedFile) := do
  let defaultBranch := if s.defaultBranch.isEmpty then none else some s.defaultBranch
  let current ← askCurrentRef
  let head := Git.shortName (some (if s.ref.isEmpty then current else s.ref))
  let base := Git.shortName (if s.base.isEmpty then defaultBranch else some s.base)
  -- a short name that is empty names nothing, like a missing one
  let head ← match head.filter (!·.isEmpty) with
    | some h => pure h
    | none => throw (.config .noHead)
  let base ← match base.filter (!·.isEmpty) with
    | some b => pure b
    | none => throw (.config .noBase)
  if Git.isSha base || base == head then
    pushChanges s base head current (if Git.isSha base then base else s.before) defaultBranch
  else
    logInfo ("Changes will be detected between " ++ base ++ " and " ++ head) []
    askChanges (.sinceMergeBase base head s.fetchDepth)

/-- The change set the settings choose. -/
def detectChanges (s : Settings) : RunM (List ChangedFile) := do
  if s.base == Git.head then
    if !s.ref.isEmpty then
      logWarning "'ref' input parameter is ignored when 'base' is set to HEAD" []
    askChanges .onHead
  else if !s.prFiles.isEmpty then
    if !s.ref.isEmpty then
      logWarning "'ref' input parameter is ignored when pull request files are given" []
    if !s.base.isEmpty then
      logWarning "'base' input parameter is ignored when pull request files are given" []
    PullRequest.load s.prFiles
  else historyChanges s

end ChangeFilter
