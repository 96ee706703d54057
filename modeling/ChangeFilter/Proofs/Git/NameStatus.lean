import Mathlib
import ChangeFilter.Git.Output

/-! # Name-status diffs

    `git diff --name-status -z` writes each changed file as a status letter
    and a path, each followed by a NUL. `nameStatusText` writes a list of
    such records so, and `namesOfDiff` reads them back: the records whose
    letter names a status become changed files in order, a record with any
    other letter is passed over whole, so that the records after it keep
    their pairing, and a last token without a partner changes nothing.

    The reader splits its input with `String.splitOn`; `splitOn_singleton`
    says that at a one-character separator this is the split of the
    character list. After that everything about the fields of a text
    follows from one equation, `fields_append_nul`: a NUL divides the
    fields into those before it and those after it.

    Main statements:
    * `splitOn_singleton` — splitting text at one character splits its
      characters there;
    * `namesOfDiff_nameStatusText` — the reader takes back exactly the
      records with a known letter, skips the others without shifting the
      rest, and ignores a dangling token. -/

namespace ChangeFilter.Git

/-! ## Splitting at one character -/

section Split

open String

/-- The search for a one-character separator, from a state in which `l`
    lies before the piece being read, `m` is that piece, and `r` is still to
    be read. -/
theorem splitOnAux_singleton (c : Char) (l m r : List Char) (acc : List String) :
    String.splitOnAux (String.ofList (l ++ m ++ r)) (String.singleton c)
        ⟨utf8Len l⟩ ⟨utf8Len l + utf8Len m⟩ 0 acc =
      acc.reverse ++ (List.splitOnPPrepend (· == c) r m.reverse).map String.ofList := by
  unfold String.splitOnAux
  simp only [List.append_assoc, atEnd_iff, rawEndPos_ofList, utf8Len_append, Pos.Raw.mk_le_mk,
    Nat.add_le_add_iff_left, (by omega : utf8Len m + utf8Len r ≤ utf8Len m ↔ utf8Len r = 0),
    utf8Len_eq_zero, List.reverse_cons]
  split
  · -- at the end of the text the piece is the last one
    subst r
    simpa using extract_of_valid l m []
  · obtain ⟨d, r, rfl⟩ := r.exists_cons_of_ne_nil ‹_›
    have hget : Pos.Raw.get (ofList (l ++ (m ++ d :: r))) ⟨utf8Len l + utf8Len m⟩ = d := by
      simpa [-ofList_append] using get_of_valid (l ++ m) (d :: r)
    have hnext : Pos.Raw.next (ofList (l ++ (m ++ d :: r))) ⟨utf8Len l + utf8Len m⟩ =
        ⟨utf8Len l + utf8Len m + d.utf8Size⟩ := by
      simpa [-ofList_append] using next_of_valid (l ++ m) d r
    have hsep : Pos.Raw.get (String.singleton c) 0 = c := by
      simpa using get_of_valid [] [c]
    have hsepNext : Pos.Raw.next (String.singleton c) 0 = ⟨c.utf8Size⟩ := by
      simpa using next_of_valid [] c []
    -- one character matched is the whole separator
    have hsepLe : (String.singleton c).rawEndPos ≤ ⟨c.utf8Size⟩ := by
      simpa using (atEnd_of_valid [c] []).2 rfl
    rw [hget, hsep, Pos.Raw.unoffsetBy_zero, hnext, hsepNext, if_pos hsepLe]
    by_cases hdc : (d == c) = true
    · -- a separator closes the piece `m` and starts an empty one after it
      have hd : d = c := beq_iff_eq.1 hdc
      subst hd
      have hback : (⟨utf8Len l + utf8Len m + d.utf8Size⟩ : Pos.Raw).unoffsetBy ⟨d.utf8Size⟩ =
          ⟨utf8Len l + utf8Len m⟩ := by
        simp [Pos.Raw.unoffsetBy]
      have hext : Pos.Raw.extract (ofList (l ++ (m ++ d :: r))) ⟨utf8Len l⟩
          ⟨utf8Len l + utf8Len m⟩ = ofList m := by
        simpa using extract_of_valid l m (d :: r)
      rw [if_pos hdc, hback, hext, List.splitOnPPrepend_cons_pos (p := fun x => x == d) hdc]
      simpa [Nat.add_assoc] using
        splitOnAux_singleton d (l ++ m ++ [d]) [] r (ofList m :: acc)
    · -- any other character joins the piece
      rw [if_neg hdc, List.splitOnPPrepend_cons_neg (p := fun x => x == c) (Bool.eq_false_iff.2 hdc)]
      simpa [Nat.add_assoc] using splitOnAux_singleton c l (m ++ [d]) r acc
termination_by r.length

/-- Splitting text at a one-character separator splits its characters
    there. -/
theorem splitOn_singleton (s : String) (c : Char) :
    s.splitOn (String.singleton c) = (s.toList.splitOn c).map String.ofList := by
  have hne : (String.singleton c == "") = false := by simp
  rw [String.splitOn, hne, if_neg Bool.false_ne_true]
  simpa [List.splitOn_eq_splitOnP] using splitOnAux_singleton c [] [] s.toList []

end Split

/-! ## Fields -/

theorem fields_eq (output : String) :
    fields output = ((output.toList.splitOn '\x00').map String.ofList).filter (· ≠ "") := by
  rw [fields, show "\x00" = String.singleton '\x00' from rfl, splitOn_singleton]

/-- A NUL divides the fields of a text into those before it and those
    after it. -/
theorem fields_append_nul (x y : String) : fields (x ++ "\x00" ++ y) = fields x ++ fields y := by
  rw [fields_eq, fields_eq, fields_eq]
  simp [List.splitOn_append_cons_self]

/-- Text without a NUL is one field, or none when it is empty. -/
theorem fields_of_nulFree {t : String} (ht : '\x00' ∉ t.toList) :
    fields t = if t = "" then [] else [t] := by
  rw [fields_eq, List.splitOn_eq_singleton ht]
  by_cases h : t = "" <;> simp [h]

@[simp] theorem fields_empty : fields "" = [] := by
  simpa using fields_of_nulFree (t := "") (by simp)

/-! ## Records -/

/-- A token of name-status output: non-empty text without a NUL. -/
structure Token where
  text : String
  nonempty : text ≠ ""
  nulFree : '\x00' ∉ text.toList

theorem Token.fields (t : Token) : fields t.text = [t.text] := by
  rw [fields_of_nulFree t.nulFree, if_neg t.nonempty]

/-- A record of a name-status diff: a status letter and a path. -/
structure DiffRecord where
  letter : Token
  path : Token

/-- A record as `--name-status -z` writes it: the letter, a NUL, the path
    and a NUL. -/
def DiffRecord.text (r : DiffRecord) : String :=
  r.letter.text ++ "\x00" ++ r.path.text ++ "\x00"

/-- The changed file a record stands for, when its letter names a status. -/
def DiffRecord.file? (r : DiffRecord) : Option ChangedFile :=
  (Status.ofLetter? r.letter.text).map (ChangedFile.mk r.path.text)

/-- Records as `--name-status -z` writes them, one after another. -/
def nameStatusText (records : List DiffRecord) : String :=
  String.join (records.map DiffRecord.text)

@[simp] theorem nameStatusText_nil : nameStatusText [] = "" := rfl

theorem nameStatusText_cons (r : DiffRecord) (rs : List DiffRecord) :
    nameStatusText (r :: rs) = r.text ++ nameStatusText rs := by
  simp [nameStatusText, String.join_cons]

theorem nameStatusText_append (rs rs' : List DiffRecord) :
    nameStatusText (rs ++ rs') = nameStatusText rs ++ nameStatusText rs' := by
  simp [nameStatusText, String.join_append]

/-- The fields of records followed by more text: the letter and path of
    each record, then the fields of the text. -/
theorem fields_nameStatusText_append (records : List DiffRecord) (t : String) :
    fields (nameStatusText records ++ t) =
      records.flatMap (fun r => [r.letter.text, r.path.text]) ++ fields t := by
  induction records with
  | nil => simp
  | cons r rs ih =>
    have htext : nameStatusText (r :: rs) ++ t =
        r.letter.text ++ "\x00" ++ (r.path.text ++ "\x00" ++ (nameStatusText rs ++ t)) := by
      simp [nameStatusText_cons, DiffRecord.text, String.append_assoc]
    rw [htext, fields_append_nul, fields_append_nul, ih, r.letter.fields, r.path.fields]
    simp

/-- Pairing up the fields of records gives the files of the records with a
    known letter, and then pairs up what follows. -/
theorem pairUp_records_append (records : List DiffRecord) (rest : List String) :
    pairUp (records.flatMap (fun r => [r.letter.text, r.path.text]) ++ rest) =
      records.filterMap DiffRecord.file? ++ pairUp rest := by
  induction records with
  | nil => simp
  | cons r rs ih =>
    simp only [List.flatMap_cons, List.cons_append, List.nil_append]
    rw [pairUp_cons_cons, ih, List.filterMap_cons]
    cases h : Status.ofLetter? r.letter.text <;> simp [DiffRecord.file?, h]

/-- What follows the records is at most one field, which pairs with
    nothing. -/
theorem pairUp_fields_of_nulFree {t : String} (ht : '\x00' ∉ t.toList) :
    pairUp (fields t) = [] := by
  rw [fields_of_nulFree ht]
  split <;> rfl

theorem namesOfDiff_nameStatusText_append (records : List DiffRecord) {t : String}
    (ht : '\x00' ∉ t.toList) :
    namesOfDiff (nameStatusText records ++ t) = records.filterMap DiffRecord.file? := by
  rw [namesOfDiff, fields_nameStatusText_append, pairUp_records_append,
    pairUp_fields_of_nulFree ht, List.append_nil]

/-- Reading the encoding of records gives the files of those with a known
    letter, in order. -/
theorem namesOfDiff_records (records : List DiffRecord) :
    namesOfDiff (nameStatusText records) = records.filterMap DiffRecord.file? := by
  simpa using namesOfDiff_nameStatusText_append records (t := "") (by simp)

/-- The name-status reader inverts git's `-z` encoding. For every list of
    records with non-empty, NUL-free letters and paths, reading their
    encoding gives, in order, the changed file of each record whose letter
    is one of `A`, `C`, `D`, `M`, `R`, `U`. A record with another letter is
    skipped whole: the records before and after it are read as they would
    be without it. A dangling token at the end, with or without its NUL,
    changes nothing. -/
theorem namesOfDiff_nameStatusText (records : List DiffRecord) :
    namesOfDiff (nameStatusText records) = records.filterMap DiffRecord.file? ∧
      (∀ pre r post, records = pre ++ r :: post → Status.ofLetter? r.letter.text = none →
        namesOfDiff (nameStatusText records) =
          namesOfDiff (nameStatusText pre) ++ namesOfDiff (nameStatusText post)) ∧
      ∀ t : Token,
        namesOfDiff (nameStatusText records ++ t.text) = namesOfDiff (nameStatusText records) ∧
          namesOfDiff (nameStatusText records ++ t.text ++ "\x00") =
            namesOfDiff (nameStatusText records) := by
  refine ⟨namesOfDiff_records records, ?_, fun t => ⟨?_, ?_⟩⟩
  · -- a record with an unknown letter has no file
    intro pre r post hsplit hletter
    have hnone : r.file? = none := by simp [DiffRecord.file?, hletter]
    rw [hsplit, namesOfDiff_records, namesOfDiff_records, namesOfDiff_records,
      List.filterMap_append, List.filterMap_cons, hnone]
  · rw [namesOfDiff_nameStatusText_append records t.nulFree, namesOfDiff_records]
  · -- the token and its NUL are one field, which pairs with nothing
    have ht : fields (t.text ++ "\x00") = [t.text] := by
      simpa [t.fields] using fields_append_nul t.text ""
    have hlone : pairUp [t.text] = [] := rfl
    rw [String.append_assoc, namesOfDiff_records, namesOfDiff, fields_nameStatusText_append, ht,
      pairUp_records_append, hlone, List.append_nil]

/-- A `T` record (a type change, whose letter the reader does not know)
    between two known ones, the record after it with a path that looks like
    a letter: the two known records are read as if it were not there. -/
theorem namesOfDiff_skips_type_change :
    Status.ofLetter? "T" = none ∧
      namesOfDiff (nameStatusText
          ([⟨⟨"M", by decide, by simp⟩, ⟨"src/a.py", by decide, by simp⟩⟩] ++
            ⟨⟨"T", by decide, by simp⟩, ⟨"link", by decide, by simp⟩⟩ ::
              [⟨⟨"A", by decide, by simp⟩, ⟨"M", by decide, by simp⟩⟩])) =
        namesOfDiff (nameStatusText
            [⟨⟨"M", by decide, by simp⟩, ⟨"src/a.py", by decide, by simp⟩⟩]) ++
          namesOfDiff (nameStatusText [⟨⟨"A", by decide, by simp⟩, ⟨"M", by decide, by simp⟩⟩]) :=
  ⟨rfl, (namesOfDiff_nameStatusText _).2.1 _ _ _ rfl rfl⟩

end ChangeFilter.Git
