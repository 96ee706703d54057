/-! # A directory tree

    A `Disk` is a tree of files, directories and symbolic links, mounted at
    an absolute path `root` (empty for the file system's own root). Entries are keyed by their path from the root,
    as a list of names; a directory exists when it is listed or when some
    entry lies below it.

    A path is read the usual way: it is absolute when it starts with `/`
    (and lies in the tree only below `root`), else relative to a current
    directory; empty and `.` names are skipped and `..` climbs one level. A
    link met on the way is replaced by its target, read from the link's
    directory; more than `linkLimit` links on one path is a loop.

    Outside the tree only the directories above its root are known: the
    root's ancestors and the file system's root exist, and are directories.
    Every other path outside the tree names nothing.

    Text is read with line ends made uniform: `\r\n` and a lone `\r` both
    become `\n`. -/

namespace ChangeFilter

/-- An entry of a directory tree. -/
inductive Entry where
  | file (text : String)
  | dir
  | link (target : String)
  deriving Inhabited, DecidableEq

/-- A directory tree mounted at an absolute path. -/
structure Disk where
  root : String
  entries : List (List String × Entry)
  deriving Inhabited

/-- Where a path leads. -/
inductive Place where
  /-- A place in the tree, which may hold no entry; its parent exists. -/
  | inside (parts : List String)
  /-- A directory on the way does not exist. -/
  | absent
  /-- A file stands where a directory is needed on the way. -/
  | notDir
  /-- Too many links. -/
  | loop
  /-- A place outside the tree. -/
  | outside
  /-- A directory above the tree: an ancestor of its root. -/
  | above
  deriving Inhabited, DecidableEq

/-- How many links one path may pass through. -/
def linkLimit : Nat := 40

namespace Disk

/-- An empty tree at a root. -/
def empty (root : String) : Disk := ⟨root, []⟩

/-- The entry at a place: a listed one, else a directory when some entry lies
    below it (the root is always a directory). -/
def entry? (d : Disk) (p : List String) : Option Entry :=
  match d.entries.lookup p with
  | some e => some e
  | none =>
    if p.isEmpty || d.entries.any (fun e => p.isPrefixOf e.1 && p.length < e.1.length) then some .dir
    else none

/-- Writes an entry at a place, replacing what was there. -/
def put (d : Disk) (p : List String) (e : Entry) : Disk :=
  if d.entries.any (·.1 == p) then
    { d with entries := d.entries.map fun x => if x.1 == p then (p, e) else x }
  else { d with entries := d.entries ++ [(p, e)] }

/-- The names of a path, in order. -/
def names (path : String) : List String :=
  path.splitOn "/"

/-- Adds an entry at a path from the root; empty and `.` names are skipped. -/
def add (d : Disk) (path : String) (e : Entry) : Disk :=
  d.put ((names path).filter fun n => n ≠ "" ∧ n ≠ ".") e

/-- The place of names read above the tree: a directory there when they only
    stay or climb, else unknown. -/
def aboveOf (parts : List String) : Place :=
  if parts.all (fun n => n = "" ∨ n = "." ∨ n = "..") then .above else .outside

/-- Where a path starts: inside the tree from a directory, or outside it. -/
def start (d : Disk) (cwd : List String) (path : String) : Option (List String × List String) :=
  if path = d.root && !path.isEmpty then some ([], [])
  else if (d.root ++ "/").isPrefixOf path then
    some ([], names (String.ofList (path.toList.drop (d.root.length + 1))))
  else if "/".isPrefixOf path then none
  else some (cwd, names path)

/-- Follows names from a directory. `follow` says whether a link at the
    last name is followed. -/
def walk (d : Disk) (fuel : Nat) (dir : List String) (parts : List String) (follow : Bool) : Place :=
  match parts with
  | [] => .inside dir
  | c :: rest =>
    if c = "" ∨ c = "." then walk d fuel dir rest follow
    else if c = ".." then
      if !dir.isEmpty then walk d fuel dir.dropLast rest follow
      -- the file system's root is its own parent
      else if d.root.isEmpty then walk d fuel [] rest follow
      else aboveOf rest
    else
      let p := dir ++ [c]
      let last := rest.all (fun n => n = "" ∨ n = ".")
      match d.entry? p with
      | none => if last then .inside p else .absent
      | some .dir => walk d fuel p rest follow
      | some (.file _) => if last then .inside p else .notDir
      | some (.link target) =>
        if last && !follow then .inside p
        else match fuel with
          | 0 => .loop
          | fuel + 1 =>
            match d.start dir target with
            | some (origin, tparts) => walk d fuel origin (tparts ++ rest) follow
            | none => aboveOf (names target ++ rest)
termination_by (fuel, parts.length)

/-- The absolute path of a place. -/
def pathOf (d : Disk) (p : List String) : String :=
  if p.isEmpty && d.root.isEmpty then "/" else d.root ++ String.join (p.map ("/" ++ ·))

/-- Where a path leads from a current directory. -/
def locate (d : Disk) (cwd : List String) (path : String) (follow : Bool) : Place :=
  match d.start cwd path with
  | some (dir, parts) => d.walk linkLimit dir parts follow
  | none => aboveOf (names path)

/-- The entry a path names, links followed. -/
def find? (d : Disk) (cwd : List String) (path : String) : Option Entry :=
  match d.locate cwd path true with
  | .inside p => d.entry? p
  | .above => some .dir
  | _ => none

/-- Whether a path names something, links followed. -/
def exists? (d : Disk) (cwd : List String) (path : String) : Bool :=
  (d.find? cwd path).isSome

/-- Whether a path names a file, links followed. -/
def isFile (d : Disk) (cwd : List String) (path : String) : Bool :=
  match d.find? cwd path with
  | some (.file _) => true
  | _ => false

/-- Whether a path names a directory, links followed. -/
def isDir (d : Disk) (cwd : List String) (path : String) : Bool :=
  match d.find? cwd path with
  | some .dir => true
  | _ => false

/-- Whether a path names a link itself. -/
def isLink (d : Disk) (cwd : List String) (path : String) : Bool :=
  match d.locate cwd path false with
  | .inside p =>
    match d.entry? p with
    | some (.link _) => true
    | _ => false
  | _ => false

end Disk

/-- Line ends made uniform: `\r\n` and `\r` become `\n`. -/
def uniformLines : List Char → List Char
  | '\r' :: '\n' :: rest => '\n' :: uniformLines rest
  | '\r' :: rest => '\n' :: uniformLines rest
  | c :: rest => c :: uniformLines rest
  | [] => []

/-- Why a file cannot be opened; each carries the system's number and text. -/
inductive OpenError where
  | noEntry
  | isDirectory
  | notDirectory
  | tooManyLinks
  deriving Inhabited, DecidableEq

/-- The system's account of an open error on a path, as
    `[Errno n] text: 'path'`. -/
def OpenError.describe (e : OpenError) (quotedPath : String) : String :=
  let (n, text) : Nat × String := match e with
    | .noEntry => (2, "No such file or directory")
    | .isDirectory => (21, "Is a directory")
    | .notDirectory => (20, "Not a directory")
    | .tooManyLinks => (40, "Too many levels of symbolic links")
  "[Errno " ++ toString n ++ "] " ++ text ++ ": " ++ quotedPath

namespace Disk

/-- The open error of a place that is not a file. -/
def placeError : Place → OpenError
  | .notDir => .notDirectory
  | .loop => .tooManyLinks
  | .above => .isDirectory
  | _ => .noEntry

/-- Reads the text of a file, line ends made uniform. -/
def readText (d : Disk) (cwd : List String) (path : String) : Except OpenError String :=
  match d.locate cwd path true with
  | .inside p =>
    match d.entry? p with
    | some (.file text) => .ok (String.ofList (uniformLines text.toList))
    | some .dir => .error .isDirectory
    | _ => .error .noEntry
  | pl => .error (placeError pl)

/-- Appends text to a file, creating it when missing. A path that ends in
    `/` names a directory: it cannot be a file, nor be created as one. -/
def append (d : Disk) (cwd : List String) (path : String) (text : String) : Except OpenError Disk :=
  let dirOnly := path.endsWith "/"
  match d.locate cwd path true with
  | .inside p =>
    match d.entry? p with
    | some (.file old) => if dirOnly then .error .notDirectory else .ok (d.put p (.file (old ++ text)))
    | some .dir => .error .isDirectory
    | _ => if p.isEmpty || dirOnly then .error .isDirectory else .ok (d.put p (.file text))
  | pl => .error (placeError pl)

/-- The directory a path names, to make it the current one. -/
def enter (d : Disk) (cwd : List String) (path : String) : Except OpenError (List String) :=
  match d.locate cwd path true with
  | .inside p =>
    match d.entry? p with
    | some .dir => .ok p
    | some (.file _) => .error .notDirectory
    | _ => .error .noEntry
  | pl => .error (placeError pl)

end Disk

/-- A path as a path object writes it: repeated and trailing `/` dropped,
    `.` names dropped, and `.` for nothing. A path that starts with exactly
    two `/` keeps them both, as the system allows that root its own meaning. -/
def normalPath (path : String) : String :=
  let parts := (path.splitOn "/").filter (fun n => n ≠ "" ∧ n ≠ ".")
  let body := "/".intercalate parts
  let lead := (path.toList.takeWhile (· = '/')).length
  if lead = 2 then "//" ++ body
  else if lead > 0 then "/" ++ body
  else if body.isEmpty then "." else body

/-- A path made absolute against a current directory, in the form a path
    object writes it. -/
def absolutePath (cwd path : String) : String :=
  if "/".isPrefixOf path then normalPath path
  else
    match normalPath path with
    | "." => cwd
    | p => cwd ++ "/" ++ p

end ChangeFilter
