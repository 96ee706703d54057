import Mathlib
import ChangeFilter.Output.ListFormat

/-! # CSV records

    RFC 4180 writes a record as fields separated by commas. A field is bare,
    text with no comma, double quote, CR or LF in it, or quoted: put in
    double quotes, inside which a double quote is written twice and commas
    and line breaks stand for themselves. `Csv.record` reads a text as one
    record so. It takes every character other than those four as text
    (RFC 4180 itself names only printable ASCII), and refuses a line break
    outside quotes, which would end the record.

    A field of the CSV list format is bare exactly when it is empty or made
    of safe characters, and quoted otherwise; either way it reads back as
    the path it was written for.

    Main statements:
    * `read_quoted` — a quoted body reads as the text whose quotes it
      doubles;
    * `read_csvField` — every CSV field reads as its text, and leaves the
      reader where a field may end;
    * `csv_list_reads_back` — the CSV list of any non-empty list of paths
      reads as one record whose fields are the paths, and each field is
      bare only when it holds no comma, quote or line break. -/

namespace ChangeFilter.Csv

open Output

/-! ## The reader -/

/-- A character that a bare field may hold: no comma, double quote, CR or
    LF. -/
def textData (c : Char) : Bool :=
  c != ',' && c != '"' && c != '\r' && c != '\n'

theorem textData_iff {c : Char} :
    textData c = true ↔ c ≠ ',' ∧ c ≠ '"' ∧ c ≠ '\r' ∧ c ≠ '\n' := by
  simp [textData, and_assoc]

/-- Where the reader is in a field. -/
inductive Place where
  /-- At the start of a field. -/
  | start
  /-- Inside a bare field. -/
  | bare
  /-- Inside a quoted field. -/
  | quoted
  /-- Just after a double quote inside a quoted field: it closes the field
      unless a second quote follows. -/
  | closing
  deriving DecidableEq

/-- Reads the fields of one record; `field` is the field being read and
    `done` the fields before it. -/
def read : Place → List Char → List Char → List (List Char) → Option (List (List Char))
  | .start, [], field, done => some (done ++ [field])
  | .start, c :: cs, field, done =>
    if c = ',' then read .start cs [] (done ++ [field])
    else if c = '"' then read .quoted cs field done
    else if textData c then read .bare cs (field ++ [c]) done
    else none
  | .bare, [], field, done => some (done ++ [field])
  | .bare, c :: cs, field, done =>
    if c = ',' then read .start cs [] (done ++ [field])
    else if textData c then read .bare cs (field ++ [c]) done
    else none
  | .quoted, [], _, _ => none
  | .quoted, c :: cs, field, done =>
    if c = '"' then read .closing cs field done else read .quoted cs (field ++ [c]) done
  | .closing, [], field, done => some (done ++ [field])
  | .closing, c :: cs, field, done =>
    if c = ',' then read .start cs [] (done ++ [field])
    else if c = '"' then read .quoted cs (field ++ ['"']) done
    else none

/-- The fields of a text read as one record, or `none` when it is not one. -/
def record (t : String) : Option (List String) :=
  (read .start t.toList [] []).map (·.map String.ofList)

example : record "a,\"b,\"\"c\"\"\",,\"\"" = some ["a", "b,\"c\"", "", ""] := by cbv
example : record "a\nb" = none := by cbv

/-- A text with each double quote written twice, as inside a quoted field. -/
def doubleQuotes : List Char → List Char
  | [] => []
  | c :: cs => if c = '"' then '"' :: '"' :: doubleQuotes cs else c :: doubleQuotes cs

/-! ## Reading fields -/

/-- Whether the reader is inside quotes, the one place where a field cannot
    end. -/
def Place.insideQuotes : Place → Bool
  | .quoted => true
  | _ => false

section Ending

variable {p : Place} (hp : p.insideQuotes = false) (field : List Char) (done : List (List Char))
include hp

theorem read_nil_of_closed : read p [] field done = some (done ++ [field]) := by
  cases p <;> simp_all [Place.insideQuotes, read]

theorem read_comma_of_closed (rest : List Char) :
    read p (',' :: rest) field done = read .start rest [] (done ++ [field]) := by
  cases p <;> simp_all [Place.insideQuotes, read]

end Ending

/-- Text characters extend a bare field. -/
theorem read_bare (rest : List Char) (done : List (List Char)) :
    ∀ {cs : List Char} (field : List Char), (∀ c ∈ cs, textData c = true) →
      read .bare (cs ++ rest) field done = read .bare rest (field ++ cs) done
  | [], field, _ => by simp
  | c :: cs, field, h => by
    have hc := h c List.mem_cons_self
    rw [List.cons_append, read, if_neg (textData_iff.1 hc).1, if_pos hc,
      read_bare rest done (field ++ [c]) fun d hd => h d (List.mem_cons_of_mem c hd)]
    simp

/-- A quoted body reads as the text whose quotes it doubles, up to the
    closing quote. -/
theorem read_quoted (rest : List Char) (done : List (List Char)) :
    ∀ (cs field : List Char),
      read .quoted (doubleQuotes cs ++ '"' :: rest) field done = read .closing rest (field ++ cs) done
  | [], field => by simp [doubleQuotes, read]
  | c :: cs, field => by
    by_cases hc : c = '"'
    · -- a doubled quote: the first closes for a moment, the second reopens
      subst hc
      simp only [doubleQuotes, if_true, List.cons_append, read, if_false, Char.reduceEq]
      rw [read_quoted rest done cs (field ++ ['"'])]
      simp
    · simp only [doubleQuotes, hc, if_false, List.cons_append, read]
      rw [read_quoted rest done cs (field ++ [c])]
      simp

theorem textData_of_csvSafe {c : Char} (h : csvSafe c = true) : textData c = true := by
  -- none of the four characters is safe
  refine textData_iff.2 ⟨?_, ?_, ?_, ?_⟩ <;> rintro rfl <;> simp [csvSafe, isAlnumAscii] at h

theorem toList_quotesDoubled (cs : List Char) :
    (String.join (cs.map fun c => if c = '"' then "\"\"" else String.singleton c)).toList =
      doubleQuotes cs := by
  induction cs with
  | nil => simp [doubleQuotes]
  | cons c cs ih =>
    rw [List.map_cons, String.join_cons, String.toList_append, ih]
    by_cases hc : c = '"'
    · subst hc
      simp [doubleQuotes]
    · simp [doubleQuotes, hc]

/-- A field that is not left bare is quoted, with its quotes doubled. -/
theorem csvField_toList_of_quoted {v : String} (h : (v.isEmpty || v.toList.all csvSafe) = false) :
    (csvField v).toList = '"' :: doubleQuotes v.toList ++ ['"'] := by
  rw [csvField, if_neg (by simp [h]), String.toList_append, String.toList_append,
    toList_quotesDoubled]
  simp

theorem length_doubleQuotes (cs : List Char) : cs.length ≤ (doubleQuotes cs).length := by
  induction cs with
  | nil => simp [doubleQuotes]
  | cons c cs ih =>
    by_cases hc : c = '"' <;> simp [doubleQuotes, hc] <;> omega

/-- The CSV field of a text, read from the start of a field, gives the text
    and leaves the reader where a field may end. -/
theorem read_csvField (v : String) :
    ∃ p : Place, p.insideQuotes = false ∧ ∀ rest done,
      read .start ((csvField v).toList ++ rest) [] done = read p rest v.toList done := by
  by_cases hbare : (v.isEmpty || v.toList.all csvSafe) = true
  · have hv : csvField v = v := by rw [csvField, if_pos hbare]
    rw [hv]
    cases hcs : v.toList with
    | nil =>
      -- the empty field: nothing is read
      exact ⟨.start, rfl, fun rest done => rfl⟩
    | cons c cs =>
      -- a bare field of safe characters
      have hsafe : ∀ d ∈ c :: cs, textData d = true := by
        intro d hd
        simp only [Bool.or_eq_true, String.isEmpty_iff, List.all_eq_true] at hbare
        rcases hbare with rfl | hall
        · simp at hcs
        · exact textData_of_csvSafe (hall d (hcs ▸ hd))
      have hc := textData_iff.1 (hsafe c List.mem_cons_self)
      refine ⟨.bare, rfl, fun rest done => ?_⟩
      rw [List.cons_append, read, if_neg hc.1, if_neg hc.2.1, if_pos (hsafe c List.mem_cons_self),
        List.nil_append, read_bare rest done [c] fun d hd => hsafe d (List.mem_cons_of_mem c hd)]
      simp
  · -- a quoted field
    have hopen : ∀ cs done, read .start ('"' :: cs) [] done = read .quoted cs [] done := by
      intro cs done
      simp [read]
    refine ⟨.closing, rfl, fun rest done => ?_⟩
    rw [csvField_toList_of_quoted (by simpa using hbare)]
    simp only [List.cons_append, List.append_assoc]
    rw [hopen, read_quoted]
    simp

/-! ## Lists of paths -/

/-- The CSV list of a non-empty list of paths reads as the paths, one field
    each. -/
theorem read_render_csv :
    ∀ {paths : List String} (done : List (List Char)), paths ≠ [] →
      read .start (render .csv paths).toList [] done = some (done ++ paths.map String.toList)
  | [], _, h => absurd rfl h
  | [p], done, _ => by
    obtain ⟨place, hplace, hread⟩ := read_csvField p
    simpa [render, read_nil_of_closed hplace] using hread [] done
  | p :: q :: ps, done, _ => by
    obtain ⟨place, hplace, hread⟩ := read_csvField p
    -- the first field, then a comma, then the rest
    have hrest := @read_render_csv (q :: ps) (done ++ [p.toList]) (List.cons_ne_nil q ps)
    simp only [render, List.map_cons, String.intercalate_cons_cons, String.toList_append] at hrest ⊢
    rw [List.append_assoc, hread, show (",".toList ++ _) = ',' :: _ from rfl,
      read_comma_of_closed hplace]
    simpa using hrest

/-- The CSV list format reads back as the paths it lists. For every
    non-empty list of paths, the text is one RFC 4180 record whose fields are
    exactly the paths. A field is left bare only when its text holds no
    comma, double quote, CR or LF; otherwise it is put in double quotes with
    its inner quotes doubled. -/
theorem csv_list_reads_back :
    (∀ paths : List String, paths ≠ [] → record (render .csv paths) = some paths) ∧
      ∀ v : String,
        (csvField v = v → ∀ c ∈ v.toList, c ≠ ',' ∧ c ≠ '"' ∧ c ≠ '\r' ∧ c ≠ '\n') ∧
          (csvField v ≠ v → (csvField v).toList = '"' :: doubleQuotes v.toList ++ ['"']) := by
  refine ⟨fun paths h => ?_, fun v => ⟨fun hv c hc => ?_, fun hv => ?_⟩⟩
  · rw [record, read_render_csv [] h]
    simp [Function.comp_def]
  · by_cases hbare : (v.isEmpty || v.toList.all csvSafe) = true
    · simp only [Bool.or_eq_true, String.isEmpty_iff, List.all_eq_true] at hbare
      rcases hbare with rfl | hall
      · simp at hc
      · exact textData_iff.1 (textData_of_csvSafe (hall c hc))
    · -- a quoted field is longer than its text
      have hlen := congrArg List.length (congrArg String.toList hv)
      rw [csvField_toList_of_quoted (by simpa using hbare)] at hlen
      have := length_doubleQuotes v.toList
      simp at hlen
      omega
  · cases hbare : (v.isEmpty || v.toList.all csvSafe) with
    | false => exact csvField_toList_of_quoted hbare
    | true => exact absurd (by rw [csvField, if_pos hbare]) hv

/-- Paths with a comma, with quotes, with a line break, and a plain one. -/
theorem csv_list_reads_back_at_quotes :
    ["a,b.txt", "file \"q\".txt", "line\nbreak", "src/a-b_c.py"] ≠ [] ∧
      record (render .csv ["a,b.txt", "file \"q\".txt", "line\nbreak", "src/a-b_c.py"]) =
        some ["a,b.txt", "file \"q\".txt", "line\nbreak", "src/a-b_c.py"] :=
  ⟨List.cons_ne_nil _ _, csv_list_reads_back.1 _ (List.cons_ne_nil _ _)⟩

end ChangeFilter.Csv
