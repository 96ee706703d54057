import ChangeFilter.Git.Session
import ChangeFilter.Git.Output

/-! # Changed files from git

    The ways to list a change set, each inside a log group:

    * `lastCommit`: the files of the most recent commit;
    * `between base head`: both refs made available (fetched from `origin`
      when missing), then compared directly, `base..head`;
    * `onHead`: the working tree and index against `HEAD`;
    * `sinceMergeBase base head depth`: `head` against its merge-base with
      `base`, `base...head`. When there is no merge-base the history is
      fetched `depth` commits deep and then deepened, doubling each round up
      to `maxDepth`, until one appears. When a round brings no new commits
      the full history is fetched once; if there is still no merge-base the
      refs are compared directly;
    * `allAdded`: every tracked file, as added.

    `currentRef` is the checked-out branch, else the exact tag, else the SHA
    of `HEAD`. `localRef` resolves a short name to a local ref, preferring the
    remote-tracking branch of `origin`; a SHA resolves to itself when the
    commit is present. -/

namespace ChangeFilter.Git

/-- The largest depth a deepening round asks for. -/
def maxDepth : Int := Int.pow 2 53 - 1

/-- The files a diff of revisions lists. -/
def diff (revisions : List String) : GitM (List ChangedFile) := do
  let r ← run (["diff"] ++ diffArgs ++ revisions) true
  pure (namesOfDiff r.stdout)

/-- Whether a commit is present. -/
def hasCommit (ref : String) : GitM Bool := do
  let r ← run ["cat-file", "-e", ref ++ "^\x7bcommit\x7d"] false
  pure (r.code == 0)

/-- The local ref a short name or SHA resolves to. -/
def localRef (name : String) : GitM (Option String) := do
  if isSha name then
    pure (if ← hasCommit name then some name else none)
  else
    let r ← run ["show-ref", name] false
    pure (preferredRef (refsNamed r.stdout name))

/-- A ref made available: resolved locally, else fetched from `origin` as a
    branch, else as a tag. -/
def ensureRef (name : String) : GitM String :=
  grouped ("Ensuring " ++ name ++ " is fetched from origin") do
    let ref ← localRef name
    let ref ← match ref with
      | some r => pure (some r)
      | none => do
        let _ ← run ["fetch", "--depth=1", "--no-tags", "origin", name] true
        localRef name
    let ref ← match ref with
      | some r => pure (some r)
      | none => do
        let _ ← run ["fetch", "--depth=1", "--tags", "origin", name] true
        localRef name
    match ref with
    | some r => pure r
    | none => throw (GitError.unresolved name)

/-- The files of the most recent commit. -/
def lastCommit : GitM (List ChangedFile) := do
  let r ← grouped "Change detection in last commit" do
    run (["log", "--format="] ++ diffArgs ++ ["-n", "1"]) true
  pure (namesOfDiff r.stdout)

/-- The files that differ between two refs, compared directly. -/
def between (base head : String) : GitM (List ChangedFile) := do
  let baseRef ← ensureRef base
  let headRef ← ensureRef head
  grouped ("Change detection " ++ base ++ ".." ++ head) do
    diff [baseRef ++ ".." ++ headRef]

/-- The files changed in the working tree and index. -/
def onHead : GitM (List ChangedFile) :=
  grouped "Change detection on HEAD" do
    diff [head]

/-- Every tracked file, as added. -/
def allAdded : GitM (List ChangedFile) := do
  let r ← grouped "Listing all files tracked by git" do
    run ["ls-files", "-z"] true
  pure (addedOfListing r.stdout)

/-- The checked-out branch, else the exact tag, else the SHA of `HEAD`. -/
def currentRef : GitM String :=
  grouped "Get current git ref" do
    let branch ← run ["branch", "--show-current"] true
    let name := Text.trimBlank branch.stdout
    if name != "" then return name
    let tag ← run ["describe", "--tags", "--exact-match"] false
    if tag.code == 0 then return Text.trimBlank tag.stdout
    let sha ← run ["rev-parse", head] true
    pure (Text.trimBlank sha.stdout)

/-- Whether two resolved refs have a merge-base. -/
def hasMergeBase : Option String → Option String → GitM Bool
  | some b, some h => do
    let r ← run ["merge-base", b, h] false
    pure (r.code == 0)
  | _, _ => pure false

/-- The number of commits in the repository, zero when it cannot be read. -/
def countCommits : GitM Int := do
  let r ← run ["rev-list", "--count", "--all"] true
  pure (commitCount r.stdout)

/-- Fetches the full history once; true when there is still no merge-base. -/
def lastAttempt (b h : String) : GitM Bool := do
  logInfo "No more commits were fetched" []
  logInfo "Last attempt will be to fetch full history" []
  let _ ← run ["fetch"] true
  pure !(← hasMergeBase (some b) (some h))

/-- Deepens the history round by round until a merge-base appears (false) or
    a round brings no new commits and the full history has none (true). At
    most `rounds` rounds are run before the full history is fetched. -/
def deepen (base head b h : String) : Nat → Int → Int → GitM Bool
  | 0, _, _ => lastAttempt b h
  | rounds + 1, depth, last => do
    if ← hasMergeBase (some b) (some h) then return false
    let depth := min (depth * 2) maxDepth
    let _ ← run ["fetch", "--deepen=" ++ toString depth, "origin", base, head] true
    let count ← countCommits
    if count == last then lastAttempt b h
    else deepen base head b h rounds depth count

/-- Resolves refs missing after a first fetch: again by name, then after
    fetching tags. -/
def resolveAfterFetch (base head : String) (b h : Option String) : GitM (String × String) := do
  let b ← match b with
    | some r => pure (some r)
    | none => localRef base
  let h ← match h with
    | some r => pure (some r)
    | none => localRef head
  match b, h with
  | some b, some h => pure (b, h)
  | _, _ =>
    let _ ← run ["fetch", "--tags", "--depth=1", "origin", base, head] false
    let b ← match b with
      | some r => pure (some r)
      | none => localRef base
    let h ← match h with
      | some r => pure (some r)
      | none => localRef head
    match b, h with
    | some b, some h => pure (b, h)
    | none, _ => throw (GitError.unresolved base)
    | some _, none => throw (GitError.unresolved head)

/-- The refs to compare and whether they have no merge-base (see the module
    note): the refs found are probed; without a merge-base the history is
    fetched `depth` commits deep, missing refs are resolved, and the history is
    deepened; `rounds` bounds the deepening rounds. -/
def searchMergeBase (rounds : Nat) (base head : String) (depth : Int) (b h : Option String) :
    GitM (String × String × Bool) := do
  if ← hasMergeBase b h then
    match b, h with
    | some b, some h => pure (b, h, false)
    | _, _ => pure ("None", "None", false)
  else
    let _ ← run ["fetch", "--no-tags", "--depth=" ++ toString depth, "origin", base, head] true
    let (b, h) ← match b, h with
      | some b, some h => pure (b, h)
      | _, _ => resolveAfterFetch base head b h
    let last ← countCommits
    let orphan ← deepen base head b h rounds depth last
    pure (b, h, orphan)

/-- The files changed on `head` since its merge-base with `base` (see the
    module note); `rounds` bounds the deepening rounds. -/
def sinceMergeBase (rounds : Nat) (base head : String) (depth : Int) : GitM (List ChangedFile) := do
  let b ← localRef base
  let h ← localRef head
  let (b, h, orphan) ← grouped ("Searching for merge-base " ++ base ++ "..." ++ head)
    (searchMergeBase rounds base head depth b h)
  if orphan then
    logWarning "No merge base found - change detection will use direct <commit>..<commit> comparison" []
  let range := if orphan then b ++ ".." ++ h else b ++ "..." ++ h
  grouped ("Change detection " ++ range) do
    diff [range]

end ChangeFilter.Git
