import ChangeFilter.Rules.Table
import ChangeFilter.Yaml.Read

/-! # Loading filters from YAML text

    A filter document is YAML read in the filter schema, where only `true` and
    `false` are booleans. Empty text is an empty table; text that is no YAML
    document is refused as unreadable; a scalar that names an impossible value
    (a day past the month's end, say) is refused with that scalar's own
    error. -/

namespace ChangeFilter.Rules

/-- Loads filter text with a pattern compiler. -/
def loadWith (g : PatternCompiler) (text : String) : Except LoadError Table :=
  if text.isEmpty then .ok ⟨[]⟩
  else match Yaml.read Yaml.Schema.filters text with
    | .error e =>
      match Fault.ofData e with
      | some f => .error (.fault f)
      | none => .error (.format .unreadable)
    | .ok doc => compile g doc

/-- Loads filter text with glob patterns. -/
def load (text : String) : Except LoadError Table :=
  loadWith globCompiler text

end ChangeFilter.Rules
