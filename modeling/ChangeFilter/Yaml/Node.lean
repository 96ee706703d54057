import ChangeFilter.Yaml.Token.Scan
import ChangeFilter.Yaml.Resolve

/-! # YAML nodes

    A document is a graph of numbered nodes: scalars, sequences and mappings,
    each with its tag, a collection holding the numbers of its items.
    `Node.ofTokens` reads the tokens of a text into its one document (none for
    a text without documents):

    * block collections come from their start and `blockEnd` tokens; a mapping
      value may be a sequence whose `-` entries are not indented;
    * in a flow sequence, `key: value` is a mapping of one entry;
    * a missing key or value is the empty scalar, which is null;
    * an anchor names the node it stands before, and an alias stands for that
      very node, even inside it; an anchor may not be named twice;
    * tags are written with a handle, `!` and `!!` by default, or with the
      handles the `%TAG` directives of an explicit document declare. An
      untagged plain scalar, or one tagged `!`, gets the tag its text resolves
      to in the schema; other untagged scalars are strings;
    * a text holds at most one document; only `...` markers may follow it. -/

namespace ChangeFilter.Yaml

/-- A node of a YAML document; a collection holds its items by number. -/
inductive Node where
  | scalar (tag : String) (text : String)
  | seq (tag : String) (items : List Nat)
  | map (tag : String) (entries : List (Nat × Nat))
  deriving Repr, Inhabited

/-- The tag of a node. -/
def Node.tag : Node → String
  | .scalar t _ => t
  | .seq t _ => t
  | .map t _ => t

/-- A document's nodes by number, with the number of its root. -/
structure Document where
  nodes : Array Node
  root : Nat
  deriving Inhabited

/-- The node with a number; a number past the end is the empty scalar. -/
def Document.node (d : Document) (n : Nat) : Node :=
  d.nodes.getD n (.scalar "" "")

/-- The state of reading tokens into nodes. -/
structure Composer where
  schema : Schema
  tokens : Array Token
  pos : Nat
  /-- The nodes so far, by number. -/
  nodes : Array Node
  /-- Anchors seen so far, with the numbers of their nodes. -/
  anchors : List (String × Nat)
  handles : List (String × String)

/-- The reader's computations. -/
abbrev ComposeM := StateT Composer (Except Error)

namespace Compose

/-- The next token (the end of the stream past the last one). -/
def peekTok : ComposeM Token := do
  let s ← get
  pure (s.tokens.getD s.pos .streamEnd)

/-- Whether the next token has one of the kinds. -/
def nextIs (ks : List Kind) : ComposeM Bool := do
  pure (ks.contains (← peekTok).kind)

/-- Steps over the next token. -/
def skip : ComposeM Unit :=
  modify fun s => { s with pos := s.pos + 1 }

/-- A scalar node: an untagged plain scalar, or one tagged `!`, resolves its
    tag from its text when `implicit`; other untagged scalars are strings. -/
def scalarNode (tag : Option String) (text : String) (implicit : Bool) : ComposeM Node := do
  let schema := (← get).schema
  let t := match tag with
    | none | some "!" => if implicit then schema.resolve text else stdTag "str"
    | some t => t
  pure (.scalar t text)

/-- Adds a node and gives its number. -/
def addNode (n : Node) : ComposeM Nat :=
  modifyGet fun s => (s.nodes.size, { s with nodes := s.nodes.push n })

/-- Gives the number of a node whose content is still to be read. -/
def reserve : ComposeM Nat :=
  addNode (.scalar "" "")

/-- Sets the node of a reserved number. -/
def fill (i : Nat) (n : Node) : ComposeM Unit :=
  modify fun s => { s with nodes := s.nodes.setIfInBounds i n }

/-- The empty scalar that stands for a missing node. -/
def empty : ComposeM Nat := do
  addNode (← scalarNode none "" true)

/-- The tag of a collection: its own, or the default of its kind. -/
def collectionTag (tag : Option String) (default : String) : String :=
  match tag with
  | none | some "!" => stdTag default
  | some t => t

/-- Names a node by an anchor before its content is read, so that aliases
    inside it stand for it; a name may be given once. -/
def nameAnchor (i : Nat) : Option String → ComposeM Unit
  | none => pure ()
  | some name => do
    let s ← get
    if (s.anchors.lookup name).isSome then throw .malformed
    set { s with anchors := (name, i) :: s.anchors }

/-- The number of the node an alias stands for. -/
def aliased (name : String) : ComposeM Nat := do
  match (← get).anchors.lookup name with
  | some n => pure n
  | none => throw .malformed

/-- The full tag of a tag token. -/
def fullTag : Option String → String → ComposeM String
  | none, suffix => pure suffix
  | some handle, suffix => do
    match (← get).handles.lookup handle with
    | some pfx => pure (pfx ++ suffix)
    | none => throw .malformed

/-- The anchor and tag in front of a node, in either order. -/
def properties : ComposeM (Option String × Option String) := do
  match ← peekTok with
  | .anchor a =>
    skip
    match ← peekTok with
    | .tag h s =>
      skip
      pure (some a, some (← fullTag h s))
    | _ => pure (some a, none)
  | .tag h s =>
    skip
    let t ← fullTag h s
    match ← peekTok with
    | .anchor a =>
      skip
      pure (some a, some t)
    | _ => pure (none, some t)
  | _ => pure (none, none)

mutual
/-- Reads a node and gives its number. `block` allows block collections, and
    `indentless` a sequence of `-` entries without indentation. -/
def node : Nat → Bool → Bool → ComposeM Nat
  | 0, _, _ => throw .malformed
  | fuel + 1, block, indentless => do
    match ← peekTok with
    | .alias name =>
      skip
      aliased name
    | _ =>
      let (anchor, tag) ← properties
      let i ← reserve
      nameAnchor i anchor
      fill i (← content fuel block indentless anchor tag)
      pure i

/-- Reads the content of a node after its anchor and tag. -/
def content : Nat → Bool → Bool → Option String → Option String → ComposeM Node
  | 0, _, _, _, _ => throw .malformed
  | fuel + 1, block, indentless, anchor, tag => do
    let t ← peekTok
    if indentless && t.kind == .blockEntry then
      pure (.seq (collectionTag tag "seq") (← indentlessItems fuel))
    else match t with
      | .scalar text style =>
        skip
        scalarNode tag text ((style == .plain && tag.isNone) || tag == some "!")
      | .flowSequenceStart =>
        skip
        pure (.seq (collectionTag tag "seq") (← flowItems fuel true))
      | .flowMappingStart =>
        skip
        pure (.map (collectionTag tag "map") (← flowEntries fuel true))
      | .blockSequenceStart =>
        if block then
          skip
          pure (.seq (collectionTag tag "seq") (← blockItems fuel))
        else throw .malformed
      | .blockMappingStart =>
        if block then
          skip
          pure (.map (collectionTag tag "map") (← blockEntries fuel))
        else throw .malformed
      | _ =>
        if anchor.isSome || tag.isSome then scalarNode tag "" (tag.isNone || tag == some "!")
        else throw .malformed

/-- The entries of a block sequence, up to its `blockEnd`. -/
def blockItems : Nat → ComposeM (List Nat)
  | 0 => throw .malformed
  | fuel + 1 => do
    match (← peekTok).kind with
    | .blockEntry =>
      skip
      let item ← if ← nextIs [.blockEntry, .blockEnd] then empty else node fuel true false
      pure (item :: (← blockItems fuel))
    | .blockEnd =>
      skip
      pure []
    | _ => throw .malformed

/-- The `-` entries of a sequence without indentation. -/
def indentlessItems : Nat → ComposeM (List Nat)
  | 0 => throw .malformed
  | fuel + 1 => do
    if (← peekTok).kind == .blockEntry then
      skip
      let item ← if ← nextIs [.blockEntry, .key, .value, .blockEnd] then empty
        else node fuel true false
      pure (item :: (← indentlessItems fuel))
    else pure []

/-- The entries of a block mapping, up to its `blockEnd`. -/
def blockEntries : Nat → ComposeM (List (Nat × Nat))
  | 0 => throw .malformed
  | fuel + 1 => do
    match (← peekTok).kind with
    | .key =>
      skip
      let k ← if ← nextIs [.key, .value, .blockEnd] then empty else node fuel true true
      let v ← if (← peekTok).kind == .value then do
          skip
          if ← nextIs [.key, .value, .blockEnd] then empty else node fuel true true
        else empty
      pure ((k, v) :: (← blockEntries fuel))
    | .blockEnd =>
      skip
      pure []
    | _ => throw .malformed

/-- The entries of a flow sequence after `[`, up to `]`. -/
def flowItems : Nat → Bool → ComposeM (List Nat)
  | 0, _ => throw .malformed
  | fuel + 1, first => do
    if (← peekTok).kind == .flowSequenceEnd then
      skip
      return []
    if !first then
      if (← peekTok).kind == .flowEntry then skip else throw .malformed
    match (← peekTok).kind with
    | .key =>
      skip
      let k ← if ← nextIs [.value, .flowEntry, .flowSequenceEnd] then empty else node fuel false false
      let v ← if (← peekTok).kind == .value then do
          skip
          if ← nextIs [.flowEntry, .flowSequenceEnd] then empty else node fuel false false
        else empty
      let pair ← addNode (.map (stdTag "map") [(k, v)])
      pure (pair :: (← flowItems fuel false))
    | .flowSequenceEnd => flowItems fuel false
    | _ =>
      let item ← node fuel false false
      pure (item :: (← flowItems fuel false))

/-- The entries of a flow mapping after `{`, up to `}`. -/
def flowEntries : Nat → Bool → ComposeM (List (Nat × Nat))
  | 0, _ => throw .malformed
  | fuel + 1, first => do
    if (← peekTok).kind == .flowMappingEnd then
      skip
      return []
    if !first then
      if (← peekTok).kind == .flowEntry then skip else throw .malformed
    match (← peekTok).kind with
    | .key =>
      skip
      let k ← if ← nextIs [.value, .flowEntry, .flowMappingEnd] then empty else node fuel false false
      let v ← if (← peekTok).kind == .value then do
          skip
          if ← nextIs [.flowEntry, .flowMappingEnd] then empty else node fuel false false
        else empty
      pure ((k, v) :: (← flowEntries fuel false))
    | .flowMappingEnd => flowEntries fuel false
    | _ =>
      let k ← node fuel false false
      let v ← empty
      pure ((k, v) :: (← flowEntries fuel false))
end

/-- The default tag handles. -/
def defaultHandles : List (String × String) :=
  [("!", "!"), ("!!", "tag:yaml.org,2002:")]

/-- Reads the directives of an explicit document: at most one `%YAML` of major
    version 1, and `%TAG` handles declared once each; the default handles fill
    in. -/
def directives : Nat → Option (Nat × Nat) → List (String × String) → ComposeM Unit
  | 0, _, _ => throw .malformed
  | fuel + 1, version, handles => do
    match ← peekTok with
    | .directive (.version major minor) =>
      skip
      if version.isSome || major != 1 then throw .malformed
      directives fuel (some (major, minor)) handles
    | .directive (.tagHandle h p) =>
      skip
      if (handles.lookup h).isSome then throw .malformed
      directives fuel version (handles ++ [(h, p)])
    | .directive .other =>
      skip
      directives fuel version handles
    | _ =>
      let all := handles ++ defaultHandles.filter fun (h, _) => (handles.lookup h).isNone
      modify fun s => { s with handles := all }

/-- Steps over `...` markers. -/
def skipDocumentEnds : Nat → ComposeM Unit
  | 0 => pure ()
  | fuel + 1 => do
    if (← peekTok).kind == .documentEnd then
      skip
      skipDocumentEnds fuel

/-- Reads the one document of a token stream, giving the number of its root. -/
def document (fuel : Nat) : ComposeM (Option Nat) := do
  skip
  let root ← if ← nextIs [.directive, .documentStart, .streamEnd] then do
      skipDocumentEnds fuel
      if (← peekTok).kind == .streamEnd then pure none
      else
        directives fuel none []
        if (← peekTok).kind != .documentStart then throw .malformed
        skip
        if ← nextIs [.directive, .documentStart, .documentEnd, .streamEnd] then some <$> empty
        else some <$> node fuel true false
    else do
      modify fun s => { s with handles := defaultHandles }
      some <$> node fuel true false
  skipDocumentEnds fuel
  if (← peekTok).kind != .streamEnd then throw .malformed
  pure root

end Compose

/-- Reads the tokens of a text into its one document. -/
def Node.ofTokens (schema : Schema) (tokens : Array Token) : Except Error (Option Document) := do
  let start : Composer := { schema, tokens, pos := 0, nodes := #[], anchors := [], handles := [] }
  let (root, s) ← (Compose.document (4 * tokens.size + 16)).run start
  pure (root.map fun r => ⟨s.nodes, r⟩)

end ChangeFilter.Yaml
