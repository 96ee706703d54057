import ChangeFilter.Change
import ChangeFilter.Text.Blank
import ChangeFilter.Text.Number

/-! # Reading what git prints

    * A name-status diff with `-z` is a run of NUL-terminated fields that
      alternate a status letter and a path. Empty fields are dropped first;
      the rest pair up from the front, a pair whose letter names no status is
      skipped, and a last field without a partner is ignored.
    * A file listing with `-z` is NUL-separated paths; empty ones are dropped.
    * A line of `show-ref` names a branch, tag or remote-tracking branch of
      `origin` when some suffix of it starts with `refs/heads/`, `refs/tags/`
      or `refs/remotes/origin/`; the first such suffix is the ref, and what
      follows its prefix is the short name.
    * A commit SHA is forty lower-case hexadecimal digits.

    Main statements: `namesOfDiff_pairs` (the diff reader takes the fields two
    at a time) and `isSha_length` (a SHA has forty characters). -/

namespace ChangeFilter.Git

/-- Arguments that make a diff list names and statuses, NUL-terminated,
    without rename detection. -/
def diffArgs : List String := ["--no-renames", "--name-status", "-z"]

/-- The ref of the checked-out commit. -/
def head : String := "HEAD"

/-- The SHA git uses for a ref that does not exist yet. -/
def nullSha : String := String.ofList (List.replicate 40 '0')

/-- The non-empty fields of NUL-separated output. -/
def fields (output : String) : List String :=
  (output.splitOn "\x00").filter (· ≠ "")

/-- Pairs up status letters and paths, skipping pairs with an unknown letter. -/
def pairUp : List String → List ChangedFile
  | letter :: path :: rest =>
    match Status.ofLetter? letter with
    | some s => ⟨path, s⟩ :: pairUp rest
    | none => pairUp rest
  | _ => []

/-- The changed files of a name-status diff. -/
def namesOfDiff (output : String) : List ChangedFile :=
  pairUp (fields output)

/-- The paths of a file listing, each as added. -/
def addedOfListing (output : String) : List ChangedFile :=
  (fields output).map fun p => ⟨p, .added⟩

theorem pairUp_cons_cons (letter path : String) (rest : List String) :
    pairUp (letter :: path :: rest) =
      ((Status.ofLetter? letter).map fun s => [ChangedFile.mk path s]).getD [] ++ pairUp rest := by
  simp only [pairUp]
  cases Status.ofLetter? letter <;> rfl

theorem namesOfDiff_pairs (output : String) :
    namesOfDiff output = pairUp (fields output) := rfl

/-! ## Lines and refs -/

/-- Characters that end a line: line feed, carriage return, the vertical tab
    and form feed, the file, group and record separators, the next-line
    character and the line and paragraph separators. -/
def isLineBreak (c : Char) : Bool :=
  c = '\n' || c = '\r' || c = '\x0b' || c = '\x0c' || c = '\x1c' || c = '\x1d' || c = '\x1e' ||
    c = '\x85' || c = '\u2028' || c = '\u2029'

/-- Splits text into lines at line breaks (a carriage return before a line
    feed ends one line); a break at the end starts no further line. -/
def lines (s : String) : List String :=
  go s.toList [] []
where
  /-- `cur` is the current line reversed, `acc` the finished lines reversed. -/
  go : List Char → List Char → List String → List String
    | [], cur, acc => (if cur.isEmpty then acc else String.ofList cur.reverse :: acc).reverse
    | '\r' :: '\n' :: rest, cur, acc => go rest [] (String.ofList cur.reverse :: acc)
    | c :: rest, cur, acc =>
      if isLineBreak c then go rest [] (String.ofList cur.reverse :: acc)
      else go rest (c :: cur) acc

/-- The prefixes that name a branch, a tag and a branch of `origin`. -/
def refPrefixes : List String := ["refs/heads/", "refs/tags/", "refs/remotes/origin/"]

/-- The first suffix of a line that starts with a ref prefix: the suffix and
    what follows the prefix. -/
def refOfLine (line : String) : Option (String × String) :=
  go line.toList
where
  /-- Tries each suffix in turn. -/
  go : List Char → Option (String × String)
    | [] => none
    | cs@(_ :: rest) =>
      match refPrefixes.find? (fun p => p.toList.isPrefixOf cs) with
      | some p => some (String.ofList cs, String.ofList (cs.drop p.length))
      | none => go rest

/-- The refs of `show-ref` output whose short name is `name`, in order. -/
def refsNamed (output name : String) : List String :=
  (lines output).filterMap fun line =>
    match refOfLine line with
    | some (ref, short) => if short == name then some ref else none
    | none => none

/-- The preferred ref: the first remote-tracking branch of `origin`, else the
    first ref. -/
def preferredRef (refs : List String) : Option String :=
  match refs.find? (fun r => "refs/remotes/origin/".isPrefixOf r) with
  | some r => some r
  | none => refs.head?

/-- Whether a text is a full commit SHA: forty lower-case hexadecimal digits. -/
def isSha (s : String) : Bool :=
  s.length == 40 && s.toList.all fun c => ('0' ≤ c && c ≤ '9') || ('a' ≤ c && c ≤ 'f')

theorem isSha_length (s : String) (h : isSha s = true) : s.length = 40 := by
  unfold isSha at h
  simp only [Bool.and_eq_true, beq_iff_eq] at h
  exact h.1

/-- A ref without `refs/heads/` or `refs/tags/` in front; none for no ref. -/
def shortName : Option String → Option String
  | none => none
  | some "" => none
  | some r =>
    match ["refs/heads/", "refs/tags/"].find? (fun p => p.isPrefixOf r) with
    | some p => some (String.ofList (r.toList.drop p.length))
    | none => some r

/-- The commit count that `rev-list --count` prints, blanks around it
    dropped, or zero. -/
def commitCount (output : String) : Int :=
  (Text.readInt (Text.trimBlank output) 10).getD 0

end ChangeFilter.Git
