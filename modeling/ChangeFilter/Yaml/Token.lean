/-! # YAML tokens

    A YAML text is first cut into tokens: stream and document markers,
    directives, the starts and ends of block and flow collections, entry, key
    and value indicators, anchors, aliases, tags and scalars. Block structure
    is made explicit: indentation becomes `blockSequenceStart`,
    `blockMappingStart` and `blockEnd` tokens, and a key that stands alone on
    its line before a `:` gets a `key` token in front of it.

    `Error` is why a text is not read: `malformed` when the text is not a YAML
    document this reader accepts, and the other constructors when the document
    is well formed but one of its scalars names a value that cannot exist. -/

namespace ChangeFilter.Yaml

/-- Why a YAML text is not read into a value. -/
inductive Error where
  /-- The text is not a well-formed document, or a node cannot be built. -/
  | malformed
  /-- A scalar names an impossible value, such as a day past the month's end. -/
  | value (message : String)
  /-- A boolean tag on a word that is no boolean. -/
  | key (message : String)
  /-- A timestamp tag on text that is no timestamp. -/
  | attribute (message : String)
  /-- A number tag on empty text. -/
  | index (message : String)
  deriving Repr, Inhabited

/-- The value of a directive line. -/
inductive Directive where
  /-- `%YAML major.minor` -/
  | version (major minor : Nat)
  /-- `%TAG handle prefix` -/
  | tagHandle (handle pfx : String)
  /-- Any other directive, which is ignored. -/
  | other
  deriving Repr, Inhabited

/-- How a scalar was written. -/
inductive Style where
  | plain
  | singleQuoted
  | doubleQuoted
  | literal
  | folded
  deriving DecidableEq, Repr, Inhabited

/-- A YAML token. -/
inductive Token where
  | streamStart
  | streamEnd
  | directive (d : Directive)
  | documentStart
  | documentEnd
  | blockSequenceStart
  | blockMappingStart
  | blockEnd
  | flowSequenceStart
  | flowMappingStart
  | flowSequenceEnd
  | flowMappingEnd
  | blockEntry
  | flowEntry
  | key
  | value
  | alias (name : String)
  | anchor (name : String)
  /-- A tag: its handle (none for a verbatim or a lone `!`) and suffix. -/
  | tag (handle : Option String) (suffix : String)
  | scalar (text : String) (style : Style)
  deriving Repr, Inhabited

/-- The kind of a token, for tests on what comes next. -/
inductive Kind where
  | streamStart | streamEnd | directive | documentStart | documentEnd
  | blockSequenceStart | blockMappingStart | blockEnd
  | flowSequenceStart | flowMappingStart | flowSequenceEnd | flowMappingEnd
  | blockEntry | flowEntry | key | value | alias | anchor | tag | scalar
  deriving DecidableEq, Repr

/-- The kind of a token. -/
def Token.kind : Token → Kind
  | .streamStart => .streamStart
  | .streamEnd => .streamEnd
  | .directive _ => .directive
  | .documentStart => .documentStart
  | .documentEnd => .documentEnd
  | .blockSequenceStart => .blockSequenceStart
  | .blockMappingStart => .blockMappingStart
  | .blockEnd => .blockEnd
  | .flowSequenceStart => .flowSequenceStart
  | .flowMappingStart => .flowMappingStart
  | .flowSequenceEnd => .flowSequenceEnd
  | .flowMappingEnd => .flowMappingEnd
  | .blockEntry => .blockEntry
  | .flowEntry => .flowEntry
  | .key => .key
  | .value => .value
  | .alias _ => .alias
  | .anchor _ => .anchor
  | .tag _ _ => .tag
  | .scalar _ _ => .scalar

end ChangeFilter.Yaml
