import ChangeFilter.Yaml.Construct

/-! # Reading a YAML text

    `Yaml.read schema text` reads the one document of a text into a graph of
    values: a text without a document, or whose document is empty, reads as
    null. -/

namespace ChangeFilter.Yaml

/-- Reads the document of a YAML text in a schema. -/
def read (schema : Schema) (text : String) : Except Error Graph := do
  let tokens ← Token.scan text
  match ← Node.ofTokens schema tokens with
  | none => pure ⟨#[.scalar .null], 0⟩
  | some doc => doc.toGraph

end ChangeFilter.Yaml
