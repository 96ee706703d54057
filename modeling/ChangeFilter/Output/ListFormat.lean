import ChangeFilter.Text.Blank
import ChangeFilter.Json.Write

/-! # Lists of paths as text

    The matched paths of a filter are written in one of four formats:

    * `csv`: one record, fields joined by `,`; a field made only of the safe
      characters (ASCII letters and digits, `.`, `_`, `+`, `:`, `@`, `%`, `/`
      and `-`) stays bare, and any other non-empty field is put in double
      quotes with its double quotes doubled;
    * `json`: a compact JSON array of the paths;
    * `shell`: words joined by a space, quoted for a POSIX shell with as few
      quotes as possible;
    * `escape`: words joined by a space, with a backslash before every
      character that is not safe for a shell word (the CSV safe characters
      and `,`).

    The `none` format writes nothing. -/

namespace ChangeFilter.Output

/-- How the matched paths of a filter are written. -/
inductive ListFormat where
  | none
  | csv
  | json
  | shell
  | escape
  deriving DecidableEq, Repr, Inhabited

/-- The name of a list format. -/
def ListFormat.name : ListFormat → String
  | .none => "none"
  | .csv => "csv"
  | .json => "json"
  | .shell => "shell"
  | .escape => "escape"

/-- The list format with a given name. -/
def ListFormat.ofName? (s : String) : Option ListFormat :=
  [ListFormat.none, .csv, .json, .shell, .escape].find? (·.name == s)

/-- ASCII letters and digits. -/
def isAlnumAscii (c : Char) : Bool :=
  ('a' ≤ c && c ≤ 'z') || ('A' ≤ c && c ≤ 'Z') || ('0' ≤ c && c ≤ '9')

/-- The characters a CSV field may hold bare. -/
def csvSafe (c : Char) : Bool :=
  isAlnumAscii c || "._+:@%/-".toList.contains c

/-- The characters a shell word may hold bare. -/
def shellSafe (c : Char) : Bool :=
  isAlnumAscii c || ",._+:@%/-".toList.contains c

/-- A CSV field. -/
def csvField (v : String) : String :=
  if v.isEmpty || v.toList.all csvSafe then v
  else "\"" ++ String.join (v.toList.map fun c => if c = '"' then "\"\"" else String.singleton c) ++ "\""

/-- Every character outside the safe set behind a backslash. -/
def backslashed (v : String) : String :=
  String.join (v.toList.map fun c => if shellSafe c then String.singleton c else "\\" ++ String.singleton c)

/-- A shell word for text without a single quote: bare when safe, else in
    single quotes. -/
def singleQuoted (v : String) : String :=
  if v.isEmpty || v.toList.all shellSafe then v else "'" ++ v ++ "'"

/-- A shell word. Safe text stays bare. Text with a single quote goes in double
    quotes when all its other characters are safe or blank; otherwise each
    quote-free piece is quoted on its own and the pieces are joined by `\'`.
    Any other text goes in single quotes. -/
def shellWord (v : String) : String :=
  if v.isEmpty || v.toList.all shellSafe then v
  else if v.toList.contains '\'' then
    if v.toList.all (fun c => shellSafe c || c = '\'' || Text.isBlank c) then "\"" ++ v ++ "\""
    else "\\'".intercalate ((v.toList.splitOn '\'').map fun piece => singleQuoted (String.ofList piece))
  else "'" ++ v ++ "'"

/-- The paths written in a format. -/
def render (fmt : ListFormat) (paths : List String) : String :=
  match fmt with
  | .none => ""
  | .csv => ",".intercalate (paths.map csvField)
  | .json => Json.write Json.compact (.seq (paths.map .str))
  | .shell => " ".intercalate (paths.map shellWord)
  | .escape => " ".intercalate (paths.map backslashed)

end ChangeFilter.Output
