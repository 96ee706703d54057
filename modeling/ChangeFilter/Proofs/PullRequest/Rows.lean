import Mathlib
import ChangeFilter.PullRequest
import ChangeFilter.Proofs.Rules.Refusal

/-! # Rows of a pull request listing

    A hosted pull request lists its files as rows, and `recordsOfRows` turns
    them into records one row after another. `rowOutcome` says what one row
    stands for by the rules of a listing: a rename is its new path as added
    and then its previous name as deleted when that name is truthy; an
    unchanged row stands for nothing; `removed` and `changed` are deleted and
    modified; the name of any other status of a diff is that status. A row
    without a non-empty filename text, or whose status names none of these,
    is refused.

    Two things happen that the listing's own account does not mention. A
    status that cannot be a key (a list or an object) fails in the alias
    lookup as a fault, where an unknown status is otherwise refused. And
    the previous name of a rename is taken as the row holds it: any truthy
    value, text or not.

    The records are read while the run logs each row; the log is all that
    changes, so the result of every row is the same from every workspace
    (`Yields`), and the records of a listing are those of its rows, in
    order, up to the first row that fails.

    Main statements:
    * `yields_rowRecords` — the result of reading a row is its outcome;
    * `listing_rows_normalised` — a listing is the concatenation of its
      rows' records, fails exactly at its first failing row, and every
      record it returns is `Normal`. -/

namespace ChangeFilter.PullRequest

/-! ## Results of a run -/

section Yields

variable {α β : Type}

/-- A step of a run whose result is `r` from every workspace; it may change
    the workspace, its log for instance, on the way. -/
def Yields (x : RunM α) (r : Except Failure α) : Prop :=
  ∀ s, (x.run.run s).1 = r

theorem Yields.bind {x : RunM α} {f : α → RunM β} {r : Except Failure α}
    {g : α → Except Failure β} (hx : Yields x r) (hf : ∀ a, Yields (f a) (g a)) :
    Yields (x >>= f) (r >>= g) := by
  intro s
  rcases hp : x.run.run s with ⟨r', s'⟩
  have hr : r' = r := by simpa [hp] using hx s
  subst hr
  simp only [ExceptT.run_bind, StateT.run_bind, hp]
  cases r' with
  | error e => rfl
  | ok a => exact hf a s'

theorem yields_pure (a : α) : Yields (pure a : RunM α) (.ok a) := fun _ => rfl

/-- Logging changes the log and nothing else. -/
theorem run_logAt_bind (level : Level) (msg : String) (extra : Context) (k : Unit → RunM α)
    (s : Workspace) :
    (logAt level msg extra >>= k).run.run s =
      (k ()).run.run { s with log := s.log.write level msg extra } := rfl

end Yields

/-! ## What a row stands for -/

/-- The records a row with filename `f` stands for, by its status: a rename
    is the new path as added, then the previous name as deleted when it is
    truthy; an unchanged row is none; `removed` and `changed` are deleted and
    modified; any other status name of a diff is that status. A status that
    cannot be a key is a fault, and any other status is refused. -/
def statusRecords (f : String) (status previous : Value) : Except Failure (List Record) :=
  match status with
  | .str "renamed" =>
    .ok (⟨.str f, .added⟩ :: if previous.truthy then [⟨previous, .deleted⟩] else [])
  | .str "unchanged" => .ok []
  | .str "removed" => .ok [⟨.str f, .deleted⟩]
  | .str "changed" => .ok [⟨.str f, .modified⟩]
  | .str name =>
    match Status.ofName? name with
    | some s => .ok [⟨.str f, s⟩]
    | none => .error (.listing (.unknownStatus status f))
  | _ =>
    match unhashablePart status with
    | some n => .error (.fault (Fault.unhashable n))
    | none => .error (.listing (.unknownStatus status f))

/-- What a row stands for: a row that is no mapping has no `get`; a row
    without a non-empty filename text is refused; any other row stands for
    the records of its status. -/
def rowOutcome : Value → Except Failure (List Record)
  | .map es =>
    match Mapping.valueAt es (.str "filename") with
    | some (.str f) =>
      if f.isEmpty then .error (.listing (.noFilename (.map es)))
      else statusRecords f ((Mapping.valueAt es (.str "status")).getD .null)
        ((Mapping.valueAt es (.str "previous_filename")).getD .null)
    | _ => .error (.listing (.noFilename (.map es)))
  | row => .error (.fault (Fault.noAttribute row.typeName "get"))

section Status

variable {f : String} {status previous : Value}

theorem statusRecords_renamed (f : String) (previous : Value) :
    statusRecords f (.str "renamed") previous =
      .ok (⟨.str f, .added⟩ :: if previous.truthy then [⟨previous, .deleted⟩] else []) := by
  simp [statusRecords]

theorem statusRecords_unchanged (f : String) (previous : Value) :
    statusRecords f (.str "unchanged") previous = .ok [] := by
  simp [statusRecords]

theorem statusRecords_of_unhashable {n : String} (h : unhashablePart status = some n) :
    statusRecords f status previous = .error (.fault (Fault.unhashable n)) := by
  cases status <;> simp_all [statusRecords, unhashablePart]

theorem statusRecords_of_alias {st : Status} (h : aliasOf? status = some st) :
    statusRecords f status previous = .ok [⟨.str f, st⟩] := by
  unfold aliasOf? at h
  split at h <;> simp_all [statusRecords]

/-- A text that is no alias is neither `removed` nor `changed`. -/
theorem ne_of_aliasOf?_eq_none {name : String} (ha : aliasOf? (.str name) = none) :
    name ≠ "removed" ∧ name ≠ "changed" := by
  constructor <;> rintro rfl <;> simp [aliasOf?] at ha

/-- A text status that is neither a rename, nor unchanged, nor an alias, is
    the status it names. -/
theorem statusRecords_of_name {name : String} {st : Status}
    (hr : Value.str name ≠ .str "renamed") (hu : Value.str name ≠ .str "unchanged")
    (ha : aliasOf? (.str name) = none) (hn : Status.ofName? name = some st) :
    statusRecords f (.str name) previous = .ok [⟨.str f, st⟩] := by
  obtain ⟨hrm, hch⟩ := ne_of_aliasOf?_eq_none ha
  unfold statusRecords
  split <;> simp_all

theorem statusRecords_of_unknown_name {name : String}
    (hr : Value.str name ≠ .str "renamed") (hu : Value.str name ≠ .str "unchanged")
    (ha : aliasOf? (.str name) = none) (hn : Status.ofName? name = none) :
    statusRecords f (.str name) previous = .error (.listing (.unknownStatus (.str name) f)) := by
  obtain ⟨hrm, hch⟩ := ne_of_aliasOf?_eq_none ha
  unfold statusRecords
  split <;> simp_all

theorem statusRecords_of_not_text (hs : ∀ name, status ≠ .str name)
    (hh : unhashablePart status = none) :
    statusRecords f status previous = .error (.listing (.unknownStatus status f)) := by
  cases status <;> simp_all [statusRecords]

end Status

theorem rowOutcome_of_no_filename {es : List (Value × Value)}
    (h : ∀ f, Mapping.valueAt es (.str "filename") = some (.str f) → False) :
    rowOutcome (.map es) = .error (.listing (.noFilename (.map es))) := by
  rw [rowOutcome]
  split
  · next f hf => exact (h f hf).elim
  · rfl

theorem rowOutcome_of_not_map {row : Value} (h : ∀ es, row = .map es → False) :
    rowOutcome row = .error (.fault (Fault.noAttribute row.typeName "get")) := by
  cases row <;> simp_all [rowOutcome]

/-! ## Reading rows -/

/-- The result of reading a row is its outcome, whatever the workspace. -/
theorem yields_rowRecords (row : Value) : Yields (rowRecords row) (rowOutcome row) := by
  intro s
  unfold rowRecords
  -- the cases follow the reader's own: the row, its filename, its status
  split
  · rename_i es
    simp only [pure_bind]
    split
    · rename_i f hf
      split
      · -- an empty filename
        rename_i hempty
        simp [rowOutcome, hf, hempty]
        rfl
      · rename_i hempty
        simp only [rowOutcome, hf, hempty, if_false, Bool.false_eq_true]
        generalize (Mapping.valueAt es (.str "status")).getD .null = status
        generalize (Mapping.valueAt es (.str "previous_filename")).getD .null = previous
        rw [logDebug, run_logAt_bind]
        split
        · -- a rename; its warning changes only the log
          rw [statusRecords_renamed]
          split <;> rfl
        · rw [statusRecords_unchanged]
          rfl
        · rename_i hr hu
          split
          · rename_i n hn
            rw [statusRecords_of_unhashable hn]
            rfl
          · rename_i hnone
            have hh : unhashablePart status = none := Option.eq_none_iff_forall_ne_some.2 hnone
            split
            · rename_i st ha
              rw [statusRecords_of_alias ha]
              rfl
            · rename_i ha
              split
              · split
                · rename_i st hn
                  rw [statusRecords_of_name hr hu ha hn]
                  rfl
                · rename_i hn
                  rw [statusRecords_of_unknown_name hr hu ha hn]
                  rfl
              · rename_i hs
                rw [statusRecords_of_not_text hs hh]
                rfl
    · -- no filename text
      rename_i hnone
      rw [rowOutcome_of_no_filename hnone]
      rfl
  · -- not a mapping
    rename_i row hrow
    rw [rowOutcome_of_not_map hrow]
    rfl

/-- The records of rows are those of each row in turn, up to the first row
    that fails. -/
theorem yields_recordsOfRows :
    ∀ rows : List Value, Yields (recordsOfRows rows) (List.flatten <$> rows.mapM rowOutcome)
  | [] => yields_pure []
  | row :: rest => by
    have h := (yields_rowRecords row).bind fun records =>
      (yields_recordsOfRows rest).bind fun more => yields_pure (records ++ more)
    have hflat : (rowOutcome row >>= fun records =>
        List.flatten <$> rest.mapM rowOutcome >>= fun more => .ok (records ++ more)) =
          List.flatten <$> (row :: rest).mapM rowOutcome := by
      rw [List.mapM_cons]
      cases rowOutcome row <;> cases rest.mapM rowOutcome <;> rfl
    rw [recordsOfRows, ← hflat]
    exact h

/-! ## What every record is -/

/-- What a listing gives of each record: a status of a diff other than a
    rename, and a truthy path, which is text unless the record is the
    previous name of a rename. -/
structure Record.Normal (r : Record) : Prop where
  not_renamed : r.status ≠ .renamed
  truthy : r.path.truthy = true
  text_or_deleted : (∃ t, r.path = .str t) ∨ r.status = .deleted

theorem Status.eq_of_ofName? {name : String} {st : Status} (h : Status.ofName? name = some st) :
    st.name = name := by
  have := List.find?_some h
  simpa using this

theorem normal_of_text {f : String} (hf : f ≠ "") {st : Status} (hst : st ≠ .renamed) :
    Record.Normal ⟨.str f, st⟩ :=
  ⟨hst, by simpa [Value.truthy] using hf, .inl ⟨f, rfl⟩⟩

theorem normal_of_statusRecords {f : String} (hf : f ≠ "") {status previous : Value}
    {rs : List Record} (h : statusRecords f status previous = .ok rs) : ∀ r ∈ rs, r.Normal := by
  unfold statusRecords at h
  split at h
  · -- a rename: the new path, and the previous name when truthy
    injection h with h
    subst h
    intro r hr
    simp only [List.mem_cons] at hr
    rcases hr with rfl | hr
    · exact normal_of_text hf (by decide)
    · split at hr
      · next htruthy =>
        rw [List.mem_singleton] at hr
        subst hr
        exact ⟨by simp, htruthy, .inr rfl⟩
      · simp at hr
  · injection h with h
    subst h
    simp
  · injection h with h
    subst h
    simpa using normal_of_text hf (by decide)
  · injection h with h
    subst h
    simpa using normal_of_text hf (by decide)
  · -- a named status, which is not a rename
    next name hr _ _ _ =>
    split at h
    · next st hn =>
      injection h with h
      subst h
      have hst : st ≠ .renamed := by
        rintro rfl
        exact hr (by rw [← Status.eq_of_ofName? hn]; rfl)
      simpa using normal_of_text hf hst
    · cases h
  · split at h <;> cases h

/-- Every result of a successful traversal is the result of some element. -/
theorem exists_of_mem_mapM {ε γ δ : Type} {g : γ → Except ε δ} {xs : List γ} {ys : List δ}
    (h : xs.mapM g = .ok ys) : ∀ y ∈ ys, ∃ x ∈ xs, g x = .ok y := by
  have hall := mapM_eq_ok.1 h
  clear h
  induction hall with
  | nil => simp
  | cons hxy _ ih =>
    intro y hy
    rcases List.mem_cons.1 hy with rfl | hy
    · exact ⟨_, List.mem_cons_self, hxy⟩
    · obtain ⟨x, hx, hgx⟩ := ih _ hy
      exact ⟨x, List.mem_cons_of_mem _ hx, hgx⟩

theorem normal_of_rowOutcome {row : Value} {rs : List Record} (h : rowOutcome row = .ok rs) :
    ∀ r ∈ rs, r.Normal := by
  unfold rowOutcome at h
  split at h
  · split at h
    · next f _ =>
      split at h
      · cases h
      · next hempty =>
        have hf : f ≠ "" := by simpa using hempty
        exact normal_of_statusRecords hf h
    · cases h
  · cases h

/-- Pull request rows become changed files as the listing rules say. Reading
    a listing is, from every workspace, the in-order concatenation of what
    each row stands for (`rowOutcome`). It fails exactly when some row
    fails, and then with the failure of the first such row: a missing,
    empty or non-text filename and an unknown status are refusals, while a
    status that cannot be a key (a list or an object) is a fault. Every
    record it returns has a status other than `renamed` and a truthy path,
    which is text except for the previous name of a rename, kept as the row
    gives it. -/
theorem listing_rows_normalised (rows : List Value) (s : Workspace) :
    ((recordsOfRows rows).run.run s).1 = List.flatten <$> rows.mapM rowOutcome ∧
      (∀ e, ((recordsOfRows rows).run.run s).1 = .error e ↔
        ∃ pre row post, rows = pre ++ row :: post ∧ (∀ r ∈ pre, ∃ c, rowOutcome r = .ok c) ∧
          rowOutcome row = .error e) ∧
      ∀ records, ((recordsOfRows rows).run.run s).1 = .ok records → ∀ r ∈ records, r.Normal := by
  have hrun := yields_recordsOfRows rows s
  refine ⟨hrun, fun e => ?_, fun records h => ?_⟩
  · rw [hrun, map_eq_error, mapM_eq_error_iff]
  · -- each record comes from some row, which was read without failing
    rw [hrun, map_eq_ok] at h
    obtain ⟨parts, hparts, rfl⟩ := h
    intro r hr
    obtain ⟨rs, hrs, hr⟩ := List.mem_flatten.1 hr
    obtain ⟨row, -, hrow⟩ := exists_of_mem_mapM hparts rs hrs
    exact normal_of_rowOutcome hrow r hr

/-- A rename with its previous name, then a removed file. -/
theorem listing_rows_at_rename :
    ((recordsOfRows
        [.map [(.str "filename", .str "new.py"), (.str "status", .str "renamed"),
          (.str "previous_filename", .str "old.py")],
         .map [(.str "filename", .str "gone.py"), (.str "status", .str "removed")]]).run.run
        default).1 =
        .ok [⟨.str "new.py", .added⟩, ⟨.str "old.py", .deleted⟩, ⟨.str "gone.py", .deleted⟩] ∧
      ∀ r ∈ ([⟨.str "new.py", .added⟩, ⟨.str "old.py", .deleted⟩, ⟨.str "gone.py", .deleted⟩] :
        List Record), r.Normal :=
  have hread : ((recordsOfRows
      [.map [(.str "filename", .str "new.py"), (.str "status", .str "renamed"),
        (.str "previous_filename", .str "old.py")],
       .map [(.str "filename", .str "gone.py"), (.str "status", .str "removed")]]).run.run
      default).1 =
      .ok [⟨.str "new.py", .added⟩, ⟨.str "old.py", .deleted⟩, ⟨.str "gone.py", .deleted⟩] := by
    cbv
  ⟨hread, (listing_rows_normalised _ default).2.2 _ hread⟩

/-- A list status fails as a fault, and a numeric previous name is kept as
    a number. -/
example : ((recordsOfRows [.map [(.str "filename", .str "a"), (.str "status", .seq [.str "added"])]]).run.run
    default).1 = .error (.fault (Fault.unhashable "list")) := by
  cbv

example : ((recordsOfRows [.map [(.str "filename", .str "new.py"), (.str "status", .str "renamed"),
    (.str "previous_filename", .int 5)]]).run.run default).1 =
      .ok [⟨.str "new.py", .added⟩, ⟨.int 5, .deleted⟩] := by
  cbv

end ChangeFilter.PullRequest
