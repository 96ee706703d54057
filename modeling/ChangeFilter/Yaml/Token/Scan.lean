import ChangeFilter.Yaml.Token
import ChangeFilter.Text.Surrogate

/-! # Cutting YAML text into tokens

    `Token.scan` walks the text once, keeping the state a YAML scanner needs:
    the position with its line and column, the depth of flow collections, the
    stack of block indentation columns, and for each flow depth the place where
    a key may have begun. A `:` that follows such a place turns it into a key:
    a `key` token is inserted there, and in block context a
    `blockMappingStart` too when the key opens a deeper indentation.

    The text may hold only printable characters, tab, line feed and carriage
    return (a byte-order mark at the very start is skipped). Tabs never indent,
    a plain scalar ends at `: ` and ` #` (and at `,[]{}` inside flow
    collections), and a key candidate lapses at the end of its line; one that
    is required by the indentation then makes the text unreadable.

    Every loop runs at most once per remaining character, so the walk is
    bounded by the length of the text. -/

namespace ChangeFilter.Yaml

/-- A place where a key may have begun. -/
structure KeyCandidate where
  tokenNumber : Nat
  required : Bool
  index : Nat
  line : Nat
  column : Nat

/-- The state of the walk over a text. -/
structure Scanner where
  text : Array Char
  index : Nat
  line : Nat
  column : Nat
  flowLevel : Int
  tokens : Array Token
  indent : Int
  indents : List Int
  allowKey : Bool
  candidates : List (Int × KeyCandidate)
  done : Bool

/-- The scanner's computations. -/
abbrev ScanM := StateT Scanner (Except Error)

namespace Scan

/-! ## Character classes -/

/-- Line break characters. -/
def isBreak (c : Char) : Bool :=
  c = '\r' || c = '\n' || c = '\x85' || c = '\u2028' || c = '\u2029'

/-- A line break or the end of the text. -/
def isBreakZ (c : Char) : Bool :=
  c = '\x00' || isBreak c

/-- A blank, a line break or the end of the text. -/
def isBlankZ (c : Char) : Bool :=
  c = ' ' || c = '\t' || isBreakZ c

/-- A line break, a space or the end of the text (no tab). -/
def isSpaceZ (c : Char) : Bool :=
  c = ' ' || isBreakZ c

/-- Characters of anchor names, directive names and tag handles. -/
def isWordChar (c : Char) : Bool :=
  c.isAlphanum || c = '-' || c = '_'

/-- Characters a tag's text may hold. -/
def isUriChar (c : Char) : Bool :=
  c.isAlphanum || "-;/?:@&=+$,_.!~*'()[]%".toList.contains c

/-- Whether a character is allowed anywhere in a YAML text. -/
def isAllowed (c : Char) : Bool :=
  let n := c.toNat
  n = 0x9 || n = 0xA || n = 0xD || (0x20 ≤ n && n ≤ 0x7E) || n = 0x85 ||
    (0xA0 ≤ n && n ≤ 0xD7FF) || (0xE000 ≤ n && n ≤ 0xFFFD) ||
    (0x10000 ≤ n && (Text.surrogate? c).isNone)

/-! ## Moving through the text -/

/-- The character `k` places ahead, or NUL past the end. -/
def peekAt (k : Nat) : ScanM Char := do
  let s ← get
  pure (s.text.getD (s.index + k) '\x00')

/-- The current character, or NUL at the end. -/
def peek : ScanM Char := peekAt 0

/-- The next `n` characters (fewer at the end). -/
def ahead (n : Nat) : ScanM String := do
  let s ← get
  pure (String.ofList (s.text.extract s.index (s.index + n)).toList)

/-- Steps over one character, counting lines and columns; a line ends at a line
    feed, a carriage return not followed by one, and the Unicode breaks, and a
    byte-order mark takes no column. -/
def forward1 : ScanM Unit := modify fun s =>
  let ch := s.text.getD s.index '\x00'
  let nx := s.text.getD (s.index + 1) '\x00'
  if ch = '\n' || ch = '\x85' || ch = '\u2028' || ch = '\u2029' || (ch = '\r' && nx != '\n') then
    { s with index := s.index + 1, line := s.line + 1, column := 0 }
  else if ch = '\uFEFF' then { s with index := s.index + 1 }
  else { s with index := s.index + 1, column := s.column + 1 }

/-- Steps over `n` characters. -/
def forward : Nat → ScanM Unit
  | 0 => pure ()
  | n + 1 => do forward1; forward n

/-- An upper bound on the steps left: one per remaining character, and two more. -/
def budget : ScanM Nat := do
  let s ← get
  pure (s.text.size + 2 - s.index)

/-- How many characters from `k` places ahead on satisfy `p`. -/
def runFrom (k : Nat) (p : Char → Bool) : ScanM Nat := do
  let s ← get
  pure (((s.text.extract (s.index + k) s.text.size).toList.takeWhile p).length)

/-- Steps over characters while they satisfy `p`. -/
def skipWhile (p : Char → Bool) : ScanM Unit := do
  let n ← runFrom 0 p
  forward n

/-- Takes the next `n` characters as text. -/
def take (n : Nat) : ScanM String := do
  let t ← ahead n
  forward n
  pure t

/-- Steps over a line break and says which it was: a line feed for `\r\n`,
    `\r`, `\n` and U+0085, the Unicode separators as themselves, and nothing
    when there is no break. -/
def lineBreak : ScanM String := do
  let ch ← peek
  if ch = '\r' || ch = '\n' || ch = '\x85' then
    if ch = '\r' && (← peekAt 1) = '\n' then forward 2 else forward1
    pure "\n"
  else if ch = '\u2028' || ch = '\u2029' then
    forward1
    pure (String.singleton ch)
  else pure ""

/-- Adds a token at the end. -/
def push (t : Token) : ScanM Unit :=
  modify fun s => { s with tokens := s.tokens.push t }

/-- The current column as an integer. -/
def column : ScanM Int := do
  pure ((← get).column : Int)

/-- Whether the walk is inside a flow collection. -/
def inFlow : ScanM Bool := do
  pure ((← get).flowLevel != 0)

/-- Whether a document marker (`---` or `...`) stands here. -/
def atDocumentMarker : ScanM Bool := do
  let p ← ahead 3
  pure ((p = "---" || p = "...") && isBlankZ (← peekAt 3))

/-! ## Key candidates and indentation -/

/-- Drops candidates whose line has ended or that lie too far back; a required
    one makes the text unreadable. -/
def staleKeys : ScanM Unit := do
  let s ← get
  let mut kept : List (Int × KeyCandidate) := []
  for (lvl, k) in s.candidates do
    if k.line != s.line || s.index - k.index > 1024 then
      if k.required then throw .malformed
    else kept := kept ++ [(lvl, k)]
  set { s with candidates := kept }

/-- Drops the candidate at the current flow depth; a required one makes the
    text unreadable. -/
def removeKey : ScanM Unit := do
  let s ← get
  match s.candidates.lookup s.flowLevel with
  | some k =>
    if k.required then throw .malformed
    set { s with candidates := s.candidates.filter (·.1 != s.flowLevel) }
  | none => pure ()

/-- Records that a key may begin here, when keys are allowed. -/
def saveKey : ScanM Unit := do
  let s ← get
  let required := s.flowLevel == 0 && s.indent == (s.column : Int)
  if s.allowKey then
    removeKey
    let s ← get
    let k : KeyCandidate := ⟨s.tokens.size, required, s.index, s.line, s.column⟩
    set { s with candidates := (s.flowLevel, k) :: s.candidates.filter (·.1 != s.flowLevel) }

/-- Closes block collections indented deeper than `col`. -/
def unwindIndent (col : Int) : ScanM Unit := do
  if ← inFlow then return
  let n := (← get).indents.length
  for _ in [0:n] do
    let s ← get
    if s.indent > col then
      match s.indents with
      | i :: rest => set { s with indent := i, indents := rest, tokens := s.tokens.push .blockEnd }
      | [] => pure ()

/-- Opens a deeper indentation at `col`, saying whether it did. -/
def addIndent (col : Int) : ScanM Bool := do
  let s ← get
  if s.indent < col then
    set { s with indents := s.indent :: s.indents, indent := col }
    pure true
  else pure false

/-- Sets whether a key may begin at the next token. -/
def setAllowKey (b : Bool) : ScanM Unit :=
  modify fun s => { s with allowKey := b }

/-! ## Between tokens -/

/-- Skips blanks, comments and line breaks up to the next token; in block
    context a line break allows a key again. -/
def skipToToken : ScanM Unit := do
  if (← get).index == 0 && (← peek) == '\uFEFF' then forward1
  let n ← budget
  for _ in [0:n] do
    skipWhile (· == ' ')
    if (← peek) == '#' then skipWhile (fun c => !isBreakZ c)
    let br ← lineBreak
    if br.isEmpty then break
    if !(← inFlow) then setAllowKey true

/-! ## Directives -/

/-- A run of word characters, which must not be empty. -/
def word : ScanM String := do
  let n ← runFrom 0 isWordChar
  if n == 0 then throw .malformed
  take n

/-- A decimal number of a version directive. -/
def versionNumber : ScanM Nat := do
  let n ← runFrom 0 Char.isDigit
  if n == 0 then throw .malformed
  let t ← take n
  pure (t.toList.foldl (fun a d => 10 * a + (d.toNat - '0'.toNat)) 0)

/-- A tag handle: `!`, `!!` or `!name!`. -/
def tagHandle : ScanM String := do
  if (← peek) != '!' then throw .malformed
  if (← peekAt 1) == ' ' then take 1
  else
    let n ← runFrom 1 isWordChar
    if (← peekAt (n + 1)) != '!' then throw .malformed
    take (n + 2)

/-- Decodes `%xx` escapes of a tag's text, which must spell UTF-8. -/
def uriEscapes : ScanM String := do
  let mut bytes : Array UInt8 := #[]
  let n ← budget
  for _ in [0:n] do
    if (← peek) != '%' then break
    forward1
    let a ← peek
    let b ← peekAt 1
    match hexValue a, hexValue b with
    | some x, some y => bytes := bytes.push (x * 16 + y).toUInt8
    | _, _ => throw .malformed
    forward 2
  match String.fromUTF8? ⟨bytes⟩ with
  | some s => pure s
  | none => throw .malformed
where
  /-- The value of a hexadecimal digit. -/
  hexValue (c : Char) : Option Nat :=
    if c.isDigit then some (c.toNat - '0'.toNat)
    else if 'a' ≤ c && c ≤ 'f' then some (c.toNat - 'a'.toNat + 10)
    else if 'A' ≤ c && c ≤ 'F' then some (c.toNat - 'A'.toNat + 10)
    else none

/-- The text of a tag, which must not be empty. -/
def tagUri : ScanM String := do
  let mut out := ""
  let mut any := false
  let n ← budget
  for _ in [0:n] do
    let ch ← peek
    if !isUriChar ch then break
    if ch == '%' then
      out := out ++ (← uriEscapes)
    else
      out := out.push ch
      forward1
    any := true
  if !any then throw .malformed
  pure out

/-- Checks that only blanks and a comment end a directive line, and steps over
    its break. -/
def directiveLineEnd : ScanM Unit := do
  skipWhile (· == ' ')
  if (← peek) == '#' then skipWhile (fun c => !isBreakZ c)
  if !isBreakZ (← peek) then throw .malformed
  discard lineBreak

/-- A directive line: `%YAML`, `%TAG` or another, ignored, one. -/
def directive : ScanM Token := do
  forward1
  let name ← word
  if !isSpaceZ (← peek) then throw .malformed
  let d ← if name == "YAML" then do
      skipWhile (· == ' ')
      let major ← versionNumber
      if (← peek) != '.' then throw .malformed
      forward1
      let minor ← versionNumber
      if !isSpaceZ (← peek) then throw .malformed
      pure (Directive.version major minor)
    else if name == "TAG" then do
      skipWhile (· == ' ')
      let handle ← tagHandle
      if (← peek) != ' ' then throw .malformed
      skipWhile (· == ' ')
      let pfx ← tagUri
      if !isSpaceZ (← peek) then throw .malformed
      pure (Directive.tagHandle handle pfx)
    else do
      skipWhile (fun c => !isBreakZ c)
      pure Directive.other
  directiveLineEnd
  pure (.directive d)

/-! ## Anchors, aliases and tags -/

/-- An anchor or alias name after its indicator; it must end at a blank or at
    one of `?:,]}%@` and the backquote. -/
def anchorName : ScanM String := do
  forward1
  let name ← word
  let ch ← peek
  if !(isBlankZ ch || "?:,]\x7d%@`".toList.contains ch) then throw .malformed
  pure name

/-- A tag: verbatim `!<…>`, a lone `!`, or a handle with a suffix. -/
def tag : ScanM Token := do
  let ch ← peekAt 1
  let t ← if ch == '<' then do
      forward 2
      let suffix ← tagUri
      if (← peek) != '>' then throw .malformed
      forward1
      pure (Token.tag none suffix)
    else if isBlankZ ch then do
      forward1
      pure (Token.tag none "!")
    else do
      let n ← runFrom 1 fun c => !isSpaceZ c && c != '!'
      let handle ← if (← peekAt (n + 1)) == '!' then tagHandle else do
        forward1
        pure "!"
      let suffix ← tagUri
      pure (Token.tag (some handle) suffix)
  if !isSpaceZ (← peek) then throw .malformed
  pure t

/-! ## Block scalars -/

/-- The chomping and indentation indicators of a block scalar header. -/
def blockIndicators : ScanM (Option Bool × Option Nat) := do
  let mut chomping : Option Bool := none
  let mut increment : Option Nat := none
  let ch ← peek
  if ch == '+' || ch == '-' then
    chomping := some (ch == '+')
    forward1
    let d ← peek
    if d.isDigit then
      if d == '0' then throw .malformed
      increment := some (d.toNat - '0'.toNat)
      forward1
  else if ch.isDigit then
    if ch == '0' then throw .malformed
    increment := some (ch.toNat - '0'.toNat)
    forward1
    let c ← peek
    if c == '+' || c == '-' then
      chomping := some (c == '+')
      forward1
  if !isSpaceZ (← peek) then throw .malformed
  pure (chomping, increment)

/-- Line breaks and indentation before the first line of a block scalar, and
    the deepest column reached. -/
def blockIndentation : ScanM (List String × Nat) := do
  let mut breaks : List String := []
  let mut maxIndent := 0
  let n ← budget
  for _ in [0:n] do
    let ch ← peek
    if !(ch == ' ' || isBreak ch) then break
    if ch != ' ' then breaks := breaks ++ [← lineBreak]
    else
      forward1
      let c := (← get).column
      if c > maxIndent then maxIndent := c
  pure (breaks, maxIndent)

/-- Line breaks inside a block scalar, stepping over indentation up to
    `indent`. -/
def blockBreaks (indent : Int) : ScanM (List String) := do
  let mut breaks : List String := []
  let n ← budget
  for _ in [0:n] do
    if (← column) < indent && (← peek) == ' ' then forward1 else break
  for _ in [0:n] do
    if !isBreak (← peek) then break
    breaks := breaks ++ [← lineBreak]
    for _ in [0:n] do
      if (← column) < indent && (← peek) == ' ' then forward1 else break
  pure breaks

/-- A literal (`|`) or folded (`>`) block scalar. -/
def blockScalar (folded : Bool) : ScanM Token := do
  forward1
  let (chomping, increment) ← blockIndicators
  directiveLineEnd
  let minIndent := max ((← get).indent + 1) 1
  let (breaks0, indent) ← match increment with
    | none => do
      let (bs, maxIndent) ← blockIndentation
      pure (bs, max minIndent (maxIndent : Int))
    | some inc => do
      let ind := minIndent + inc - 1
      let bs ← blockBreaks ind
      pure (bs, ind)
  let mut breaks := breaks0
  let mut chunks : List String := []
  let mut lineEnd := ""
  let n ← budget
  for _ in [0:n] do
    if !((← column) == indent && (← peek) != '\x00') then break
    chunks := chunks ++ breaks
    let leadingNonSpace := !((← peek) == ' ' || (← peek) == '\t')
    let len ← runFrom 0 fun c => !isBreakZ c
    chunks := chunks ++ [← take len]
    lineEnd ← lineBreak
    breaks ← blockBreaks indent
    if (← column) == indent && (← peek) != '\x00' then
      let p ← peek
      if folded && lineEnd == "\n" && leadingNonSpace && !(p == ' ' || p == '\t') then
        if breaks.isEmpty then chunks := chunks ++ [" "]
      else chunks := chunks ++ [lineEnd]
    else break
  if chomping != some false then chunks := chunks ++ [lineEnd]
  if chomping == some true then chunks := chunks ++ breaks
  pure (.scalar (String.join chunks) (if folded then .folded else .literal))

/-! ## Quoted scalars -/

/-- The character of a one-letter escape in double quotes. -/
def escapeOf (c : Char) : Option Char :=
  match c with
  | '0' => some '\x00'
  | 'a' => some '\x07'
  | 'b' => some '\x08'
  | 't' => some '\t'
  | '\t' => some '\t'
  | 'n' => some '\n'
  | 'v' => some '\x0b'
  | 'f' => some '\x0c'
  | 'r' => some '\r'
  | 'e' => some '\x1b'
  | ' ' => some ' '
  | '"' => some '"'
  | '\\' => some '\\'
  | '/' => some '/'
  | 'N' => some '\x85'
  | '_' => some '\xA0'
  | 'L' => some '\u2028'
  | 'P' => some '\u2029'
  | _ => none

/-- The number of hexadecimal digits of a numeric escape. -/
def escapeWidth (c : Char) : Option Nat :=
  match c with
  | 'x' => some 2
  | 'u' => some 4
  | 'U' => some 8
  | _ => none

/-- Line breaks inside a quoted scalar; a document marker there makes the text
    unreadable. -/
def quotedBreaks : ScanM (List String) := do
  let mut breaks : List String := []
  let n ← budget
  for _ in [0:n] do
    if ← atDocumentMarker then throw .malformed
    skipWhile fun c => c == ' ' || c == '\t'
    if isBreak (← peek) then breaks := breaks ++ [← lineBreak]
    else break
  pure breaks

/-- Text of a quoted scalar up to the next blank or the closing quote. -/
def quotedNonSpaces (double : Bool) : ScanM String := do
  let mut out := ""
  let n ← budget
  for _ in [0:n] do
    let len ← runFrom 0 fun c => !(c == '\'' || c == '"' || c == '\\' || isBlankZ c)
    out := out ++ (← take len)
    let ch ← peek
    if !double && ch == '\'' && (← peekAt 1) == '\'' then
      out := out.push '\''
      forward 2
    else if (double && ch == '\'') || (!double && (ch == '"' || ch == '\\')) then
      out := out.push ch
      forward1
    else if double && ch == '\\' then
      forward1
      let e ← peek
      match escapeOf e, escapeWidth e with
      | some r, _ =>
        out := out.push r
        forward1
      | none, some w =>
        forward1
        let digits ← ahead w
        if digits.length != w || !digits.toList.all (fun c => c.isDigit || ('a' ≤ c && c ≤ 'f') || ('A' ≤ c && c ≤ 'F')) then
          throw .malformed
        let code := digits.toList.foldl (fun a c => 16 * a + (uriEscapes.hexValue c).getD 0) 0
        if code > 0x10FFFF then throw (.value "chr() arg not in range(0x110000)")
        out := out.push (Text.ofCodePoint code)
        forward w
      | none, none =>
        if isBreak e then
          discard lineBreak
          out := out ++ String.join (← quotedBreaks)
        else throw .malformed
    else break
  pure out

/-- Blanks and line breaks inside a quoted scalar, folded: a single line break
    becomes a space, and further ones are kept. -/
def quotedSpaces : ScanM String := do
  let len ← runFrom 0 fun c => c == ' ' || c == '\t'
  let blanks ← take len
  let ch ← peek
  if ch == '\x00' then throw .malformed
  else if isBreak ch then
    let lb ← lineBreak
    let breaks ← quotedBreaks
    let first := if lb != "\n" then lb else if breaks.isEmpty then " " else ""
    pure (first ++ String.join breaks)
  else pure blanks

/-- A single- or double-quoted scalar. -/
def quotedScalar (double : Bool) : ScanM Token := do
  let quote ← peek
  forward1
  let mut out ← quotedNonSpaces double
  let n ← budget
  for _ in [0:n] do
    if (← peek) == quote then break
    out := out ++ (← quotedSpaces)
    out := out ++ (← quotedNonSpaces double)
  if (← peek) != quote then throw .malformed
  forward1
  pure (.scalar out (if double then .doubleQuoted else .singleQuoted))

/-! ## Plain scalars -/

/-- Blanks and line breaks after a piece of a plain scalar, folded as in
    quoted scalars; `none` when a document marker follows a break. -/
def plainSpaces : ScanM (Option (List String)) := do
  let len ← runFrom 0 (· == ' ')
  let blanks ← take len
  let ch ← peek
  if isBreak ch then
    let lb ← lineBreak
    setAllowKey true
    if ← atDocumentMarker then return none
    let mut breaks : List String := []
    let n ← budget
    for _ in [0:n] do
      let c ← peek
      if c == ' ' then forward1
      else if isBreak c then
        breaks := breaks ++ [← lineBreak]
        if ← atDocumentMarker then return none
      else break
    let first := if lb != "\n" then [lb] else if breaks.isEmpty then [" "] else []
    pure (some (first ++ breaks))
  else if blanks.isEmpty then pure (some [])
  else pure (some [blanks])

/-- A plain scalar: pieces of text joined by folded blanks, ending before a
    comment, a `: `, a line less indented than the enclosing block, and inside
    flow collections before `,[]{}`. -/
def plainScalar : ScanM Token := do
  let indent := (← get).indent + 1
  let flow ← inFlow
  let mut chunks : List String := []
  let mut spaces : List String := []
  let n ← budget
  for _ in [0:n] do
    if (← peek) == '#' then break
    let s ← get
    let rest := (s.text.extract s.index s.text.size).toList
    let len := pieceLength flow rest
    if len == 0 then break
    setAllowKey false
    chunks := chunks ++ spaces ++ [← take len]
    match ← plainSpaces with
    | none => break
    | some sp =>
      spaces := sp
      if sp.isEmpty || (← peek) == '#' || (!flow && (← column) < indent) then break
  pure (.scalar (String.join chunks) .plain)
where
  /-- How far a piece of a plain scalar reaches. -/
  pieceLength (flow : Bool) : List Char → Nat
    | [] => 0
    | c :: rest =>
      let stop := isBlankZ c ||
        (c == ':' && (match rest with
          | d :: _ => isBlankZ d || (flow && ",[]\x7b\x7d".toList.contains d)
          | [] => true)) ||
        (flow && ",?[]\x7b\x7d".toList.contains c)
      if stop then 0 else pieceLength flow rest + 1

/-- Whether a plain scalar may start here. -/
def canStartPlain : ScanM Bool := do
  let ch ← peek
  let next ← peekAt 1
  let flow ← inFlow
  pure (!(isBlankZ ch || "-?:,[]\x7b\x7d#&*!|>'\"%@`".toList.contains ch) ||
    (!isBlankZ next && (ch == '-' || (!flow && (ch == '?' || ch == ':')))))

/-! ## Fetching tokens -/

/-- The end of the text: closes every block and stops. -/
def fetchStreamEnd : ScanM Unit := do
  unwindIndent (-1)
  removeKey
  modify fun s => { s with allowKey := false, candidates := [] }
  push .streamEnd
  modify fun s => { s with done := true }

/-- A token that starts a line of its own kind: a directive or a document
    marker. -/
def fetchLineToken (t : ScanM Token) : ScanM Unit := do
  unwindIndent (-1)
  removeKey
  setAllowKey false
  push (← t)

/-- `[` or `{`. -/
def fetchFlowStart (t : Token) : ScanM Unit := do
  saveKey
  modify fun s => { s with flowLevel := s.flowLevel + 1, allowKey := true }
  forward1
  push t

/-- `]` or `}`. -/
def fetchFlowEnd (t : Token) : ScanM Unit := do
  removeKey
  modify fun s => { s with flowLevel := s.flowLevel - 1, allowKey := false }
  forward1
  push t

/-- `,` in a flow collection. -/
def fetchFlowEntry : ScanM Unit := do
  setAllowKey true
  removeKey
  forward1
  push .flowEntry

/-- `-` of a block sequence entry. -/
def fetchBlockEntry : ScanM Unit := do
  if !(← inFlow) then
    if !(← get).allowKey then throw .malformed
    if ← addIndent (← column) then push .blockSequenceStart
  setAllowKey true
  removeKey
  forward1
  push .blockEntry

/-- `?` of an explicit key. -/
def fetchKey : ScanM Unit := do
  let flow ← inFlow
  if !flow then
    if !(← get).allowKey then throw .malformed
    if ← addIndent (← column) then push .blockMappingStart
  setAllowKey !flow
  removeKey
  forward1
  push .key

/-- `:` of a value: the last key candidate at this depth becomes a key. -/
def fetchValue : ScanM Unit := do
  let s ← get
  match s.candidates.lookup s.flowLevel with
  | some k =>
    set { s with
      candidates := s.candidates.filter (·.1 != s.flowLevel)
      tokens := s.tokens.insertIdxIfInBounds k.tokenNumber .key }
    if !(← inFlow) then
      if ← addIndent k.column then
        modify fun s =>
          { s with tokens := s.tokens.insertIdxIfInBounds k.tokenNumber .blockMappingStart }
    setAllowKey false
  | none =>
    let flow ← inFlow
    if !flow then
      if !(← get).allowKey then throw .malformed
      if ← addIndent (← column) then push .blockMappingStart
    setAllowKey !flow
    removeKey
  forward1
  push .value

/-- A token that may begin a key: an anchor, alias, tag or quoted or plain
    scalar; no key may begin right after it. -/
def fetchKeyable (t : ScanM Token) : ScanM Unit := do
  saveKey
  setAllowKey false
  push (← t)

/-- A block scalar; a key may follow it. -/
def fetchBlockScalar (folded : Bool) : ScanM Unit := do
  setAllowKey true
  removeKey
  push (← blockScalar folded)

/-- Scans up to and including the next token. -/
def fetchMore : ScanM Unit := do
  skipToToken
  staleKeys
  unwindIndent (← column)
  let ch ← peek
  let col := (← get).column
  let flow ← inFlow
  let next ← peekAt 1
  if ch == '\x00' then fetchStreamEnd
  else if ch == '%' && col == 0 then fetchLineToken directive
  else if ch == '-' && col == 0 && (← atDocumentMarker) then
    fetchLineToken (do forward 3; pure .documentStart)
  else if ch == '.' && col == 0 && (← atDocumentMarker) then
    fetchLineToken (do forward 3; pure .documentEnd)
  else if ch == '[' then fetchFlowStart .flowSequenceStart
  else if ch == '{' then fetchFlowStart .flowMappingStart
  else if ch == ']' then fetchFlowEnd .flowSequenceEnd
  else if ch == '}' then fetchFlowEnd .flowMappingEnd
  else if ch == ',' then fetchFlowEntry
  else if ch == '-' && isBlankZ next then fetchBlockEntry
  else if ch == '?' && (flow || isBlankZ next) then fetchKey
  else if ch == ':' && (flow || isBlankZ next) then fetchValue
  else if ch == '*' then fetchKeyable (do pure (.alias (← anchorName)))
  else if ch == '&' then fetchKeyable (do pure (.anchor (← anchorName)))
  else if ch == '!' then fetchKeyable tag
  else if ch == '|' && !flow then fetchBlockScalar false
  else if ch == '>' && !flow then fetchBlockScalar true
  else if ch == '\'' then fetchKeyable (quotedScalar false)
  else if ch == '"' then fetchKeyable (quotedScalar true)
  else if ← canStartPlain then fetchKeyable plainScalar
  else throw .malformed

end Scan

/-- Cuts a text into tokens, from `streamStart` to `streamEnd`. -/
def Token.scan (text : String) : Except Error (Array Token) := do
  let cs := text.toList
  if !cs.all Scan.isAllowed then throw .malformed
  let start : Scanner :=
    { text := cs.toArray, index := 0, line := 0, column := 0, flowLevel := 0,
      tokens := #[.streamStart], indent := -1, indents := [], allowKey := true,
      candidates := [], done := false }
  let run : ScanM Unit := do
    let n ← Scan.budget
    for _ in [0:n] do
      if (← get).done then break
      Scan.fetchMore
    if !(← get).done then throw .malformed
  let ((), s) ← run.run start
  pure s.tokens

end ChangeFilter.Yaml
