import Mathlib
import ChangeFilter.Output.Export

/-! # Reading an output file back

    An output file is read line by line, lines ending at each line feed. An
    empty line is skipped. A line with a `=` before any `<<` sets the output
    named by the text before the first `=` to the rest of the line. A line
    with `<<` first opens a heredoc: the text before the first `<<` names the
    output and the rest of the line is the delimiter; the value is made of
    the lines that follow, up to the first line equal to the delimiter,
    joined with line feeds. Names and delimiters are never empty; any other
    line, or a heredoc that is never closed, makes the file unreadable.

    `outputText` writes a value without a line break as `name=value` and any
    other value as a heredoc with the delimiter of a fresh token. When no name
    is empty or holds `=`, `<` or a line feed, and no delimiter holds a line
    feed or is a line of its value, the text reads back as the outputs
    written, and a text appended to a file that ends a line reads as one more
    run of outputs after those of the file.

    Main statements:
    * `readLines_outputText` — the lines of written outputs read back as the
      outputs, followed by whatever comes after them;
    * `readOutputs_append_outputText` — appending written outputs to a file
      that ends a line adds them to what the file reads as;
    * `readOutputs_after_writes` — a file written by successive calls reads as
      the outputs of each call, in the order of the calls. -/

namespace ChangeFilter.Output

/-! ## The reader -/

/-- The name at the head of a command line and the mark after it, `=`
    (`false`) or `<<` (`true`), whichever comes first, with the text after the
    mark. -/
def splitCommand : List Char → Option (List Char × Bool × List Char)
  | [] => none
  | '=' :: rest => some ([], false, rest)
  | '<' :: '<' :: rest => some ([], true, rest)
  | c :: rest => (splitCommand rest).map fun (name, heredoc, after) => (c :: name, heredoc, after)

/-- The lines before the first line equal to `d`, and the lines after it. -/
def linesUntil (d : List Char) : List (List Char) → Option (List (List Char) × List (List Char))
  | [] => none
  | line :: rest =>
    if line = d then some ([], rest)
    else (linesUntil d rest).map fun (body, after) => (line :: body, after)

theorem linesUntil_length {d : List Char} :
    ∀ {lines body after : List (List Char)}, linesUntil d lines = some (body, after) →
      after.length < lines.length
  | [], _, _, h => by simp [linesUntil] at h
  | line :: rest, body, after, h => by
    simp only [linesUntil] at h
    split at h
    · simp only [Option.some.injEq, Prod.mk.injEq] at h
      simp [← h.2]
    · obtain ⟨⟨b, a⟩, hrest, heq⟩ := Option.map_eq_some_iff.1 h
      simp only [Prod.mk.injEq] at heq
      have := linesUntil_length hrest
      simp only [List.length_cons, ← heq.2]
      omega

/-- Reads the outputs of the lines of a file. -/
def readLines : List (List Char) → Option (List (String × String))
  | [] => some []
  | line :: rest =>
    if line = [] then readLines rest
    else match splitCommand line with
      | some (name, false, value) =>
        if name = [] then none
        else (readLines rest).map ((String.ofList name, String.ofList value) :: ·)
      | some (name, true, d) =>
        if name = [] ∨ d = [] then none
        else match _h : linesUntil d rest with
          | some (body, after) =>
            (readLines after).map ((String.ofList name, String.ofList (['\n'].intercalate body)) :: ·)
          | none => none
      | none => none
termination_by lines => lines.length
decreasing_by
  all_goals simp only [List.length_cons]
  all_goals first
    | omega
    | exact Nat.lt_succ_of_lt (linesUntil_length _h)

/-- Reads the outputs of a file. -/
def readOutputs (text : String) : Option (List (String × String)) :=
  readLines (text.toList.splitOn '\n')

/-! ## Reading lines -/

theorem linesUntil_append {d : List Char} {ys : List (List Char)} :
    ∀ {lines body after : List (List Char)}, linesUntil d lines = some (body, after) →
      linesUntil d (lines ++ ys) = some (body, after ++ ys)
  | [], _, _, h => by simp [linesUntil] at h
  | line :: rest, body, after, h => by
    simp only [linesUntil] at h
    simp only [List.cons_append, linesUntil]
    split at h
    · simp_all
    · obtain ⟨⟨b, a⟩, hrest, heq⟩ := Option.map_eq_some_iff.1 h
      simp only [Prod.mk.injEq] at heq
      obtain ⟨rfl, rfl⟩ := heq
      simp [*, linesUntil_append hrest]

/-- An empty line closes no heredoc, whose delimiter is never empty. -/
theorem linesUntil_append_nil {d : List Char} (hd : d ≠ []) :
    ∀ {lines : List (List Char)}, linesUntil d lines = none → linesUntil d (lines ++ [[]]) = none
  | [], _ => by simp [linesUntil, Ne.symm hd]
  | line :: rest, h => by
    simp only [linesUntil] at h
    simp only [List.cons_append, linesUntil]
    split at h
    · cases h
    · rw [Option.map_eq_none_iff] at h
      simp [*, linesUntil_append_nil hd h]

/-- The body of a heredoc runs up to the first line equal to its delimiter. -/
theorem linesUntil_append_cons {d : List Char} :
    ∀ {body : List (List Char)}, d ∉ body → ∀ rest, linesUntil d (body ++ d :: rest) = some (body, rest)
  | [], _, rest => by simp [linesUntil]
  | line :: body, h, rest => by
    have hline : line ≠ d := fun e => h (e ▸ List.mem_cons_self)
    simp [linesUntil, hline, linesUntil_append_cons (fun m => h (List.mem_cons_of_mem _ m)) rest]

theorem readLines_nil_line (rest : List (List Char)) : readLines ([] :: rest) = readLines rest := by
  rw [readLines.eq_2, if_pos rfl]

/-- A line `name=value` sets an output and reading goes on. -/
theorem readLines_single {line : List Char} {rest : List (List Char)} {name value : List Char}
    (hline : line ≠ []) (hsplit : splitCommand line = some (name, false, value)) (hname : name ≠ []) :
    readLines (line :: rest) =
      (readLines rest).map ((String.ofList name, String.ofList value) :: ·) := by
  rw [readLines.eq_2, if_neg hline]
  simp only [hsplit, if_neg hname]

/-- A heredoc sets an output to its body and reading goes on after the
    delimiter line. -/
theorem readLines_heredoc {line : List Char} {rest : List (List Char)} {name d : List Char}
    {body after : List (List Char)} (hline : line ≠ []) (hsplit : splitCommand line = some (name, true, d))
    (hname : name ≠ []) (hd : d ≠ []) (hbody : linesUntil d rest = some (body, after)) :
    readLines (line :: rest) =
      (readLines after).map ((String.ofList name, String.ofList (['\n'].intercalate body)) :: ·) := by
  rw [readLines.eq_2, if_neg hline]
  simp only [hsplit, if_neg (not_or.2 ⟨hname, hd⟩)]
  split
  · next h => rw [hbody] at h; cases h; rfl
  · next h => rw [hbody] at h; cases h

/-- A heredoc that is never closed makes the lines unreadable. -/
theorem readLines_heredoc_open {line : List Char} {rest : List (List Char)} {name d : List Char}
    (hline : line ≠ []) (hsplit : splitCommand line = some (name, true, d))
    (hopen : linesUntil d rest = none) : readLines (line :: rest) = none := by
  rw [readLines.eq_2, if_neg hline]
  simp only [hsplit]
  split
  · rfl
  · split
    · next h => rw [hopen] at h; cases h
    · rfl

/-- Lines that read completely read the same with more lines after them,
    which are then read on their own. -/
theorem readLines_append {ys : List (List Char)} :
    ∀ {xs : List (List Char)} {outs : List (String × String)}, readLines xs = some outs →
      readLines (xs ++ ys) = (readLines ys).map (outs ++ ·) := by
  intro xs
  induction xs using readLines.induct with
  | case1 => intro outs h; simp_all [readLines]
  | case2 rest ih =>
    intro outs h
    rw [readLines_nil_line] at h
    rw [List.cons_append, readLines_nil_line]
    exact ih h
  | case4 line rest hline name value hsplit hname ih =>
    intro outs h
    rw [readLines_single hline hsplit hname] at h
    obtain ⟨outs', hrest, rfl⟩ := Option.map_eq_some_iff.1 h
    rw [List.cons_append, readLines_single hline hsplit hname, ih hrest]
    simp [Option.map_map, Function.comp_def]
  | case6 line rest hline name d hsplit hok body after hbody ih =>
    intro outs h
    have hname : name ≠ [] := fun e => hok (.inl e)
    have hd : d ≠ [] := fun e => hok (.inr e)
    rw [readLines_heredoc hline hsplit hname hd hbody] at h
    obtain ⟨outs', hrest, rfl⟩ := Option.map_eq_some_iff.1 h
    rw [List.cons_append, readLines_heredoc hline hsplit hname hd (linesUntil_append hbody),
      ih hrest]
    simp [Option.map_map, Function.comp_def]
  | case7 line rest hline name d hsplit _ hopen =>
    intro outs h
    rw [readLines_heredoc_open hline hsplit hopen] at h
    cases h
  | case3 | case5 | case8 => intro outs h; simp_all [readLines]

/-- A last empty line changes nothing: it is skipped, or it stands in a
    heredoc that is never closed. -/
theorem readLines_append_nil :
    ∀ (xs : List (List Char)), readLines (xs ++ [[]]) = readLines xs := by
  intro xs
  induction xs using readLines.induct with
  | case1 => rw [List.nil_append, readLines_nil_line]
  | case2 rest ih => rw [List.cons_append, readLines_nil_line, readLines_nil_line, ih]
  | case4 line rest hline name value hsplit hname ih =>
    rw [List.cons_append, readLines_single hline hsplit hname, readLines_single hline hsplit hname,
      ih]
  | case6 line rest hline name d hsplit hok body after hbody ih =>
    have hname : name ≠ [] := fun e => hok (.inl e)
    have hd : d ≠ [] := fun e => hok (.inr e)
    rw [List.cons_append, readLines_heredoc hline hsplit hname hd (linesUntil_append hbody),
      readLines_heredoc hline hsplit hname hd hbody, ih]
  | case7 line rest hline name d hsplit hok hopen =>
    have hd : d ≠ [] := fun e => hok (.inr e)
    rw [List.cons_append, readLines_heredoc_open hline hsplit hopen,
      readLines_heredoc_open hline hsplit (linesUntil_append_nil hd hopen)]
  | case3 | case5 | case8 => simp_all [readLines]

/-! ## What is written -/

/-- A name the output file can carry: not empty, and without `=`, `<` or a
    line feed. -/
def OutputName (name : String) : Prop :=
  name ≠ "" ∧ '=' ∉ name.toList ∧ '<' ∉ name.toList ∧ '\n' ∉ name.toList

instance : DecidablePred OutputName := fun name =>
  inferInstanceAs (Decidable (name ≠ "" ∧ '=' ∉ name.toList ∧ '<' ∉ name.toList ∧ '\n' ∉ name.toList))

/-- The values that `outputText` writes as heredocs, in order. -/
def heredocValues (outs : List (String × String)) : List String :=
  (outs.filter fun o => o.2.any fun c => c = '\n' || c = '\r').map (·.2)

/-- A delimiter made from `token` can close a heredoc holding `value`: it holds
    no line feed and is none of the value's lines. -/
def DelimiterFits (token value : String) : Prop :=
  '\n' ∉ token.toList ∧ (delimiter token).toList ∉ value.toList.splitOn '\n'

instance (token value : String) : Decidable (DelimiterFits token value) :=
  inferInstanceAs (Decidable ('\n' ∉ token.toList ∧ (delimiter token).toList ∉ value.toList.splitOn '\n'))

/-- The `j`-th heredoc of the outputs takes the delimiter of `token j`, and
    every delimiter fits its value. -/
def DelimitersFit (token : Nat → String) (outs : List (String × String)) : Prop :=
  ∀ j v, (heredocValues outs)[j]? = some v → DelimiterFits (token j) v

theorem splitCommand_set {name : List Char} (h₁ : '=' ∉ name) (h₂ : '<' ∉ name)
    (value : List Char) : splitCommand (name ++ '=' :: value) = some (name, false, value) := by
  induction name with
  | nil => rfl
  | cons c name ih =>
    have hc₁ : c ≠ '=' := fun e => h₁ (e ▸ List.mem_cons_self)
    have hc₂ : c ≠ '<' := fun e => h₂ (e ▸ List.mem_cons_self)
    rw [List.cons_append, splitCommand.eq_4 _ _ hc₁ (fun _ e _ => hc₂ e),
      ih (fun m => h₁ (List.mem_cons_of_mem _ m)) (fun m => h₂ (List.mem_cons_of_mem _ m))]
    rfl

theorem splitCommand_heredoc {name : List Char} (h₁ : '=' ∉ name) (h₂ : '<' ∉ name)
    (d : List Char) : splitCommand (name ++ '<' :: '<' :: d) = some (name, true, d) := by
  induction name with
  | nil => rfl
  | cons c name ih =>
    have hc₁ : c ≠ '=' := fun e => h₁ (e ▸ List.mem_cons_self)
    have hc₂ : c ≠ '<' := fun e => h₂ (e ▸ List.mem_cons_self)
    rw [List.cons_append, splitCommand.eq_4 _ _ hc₁ (fun _ e _ => hc₂ e),
      ih (fun m => h₁ (List.mem_cons_of_mem _ m)) (fun m => h₂ (List.mem_cons_of_mem _ m))]
    rfl

theorem any_eq_toList_any (s : String) (p : Char → Bool) : s.any p = s.toList.any p :=
  String.contains_bool_eq

/-- A value written on one line holds no line feed. -/
theorem lf_not_mem_of_single {value : String}
    (h : ¬ (value.any fun c => c = '\n' || c = '\r') = true) : '\n' ∉ value.toList := by
  rw [any_eq_toList_any, List.any_eq_true] at h
  exact fun hm => h ⟨'\n', hm, by simp⟩

/-- Written outputs read back as themselves, followed by what the text after
    them reads as. The `j`-th heredoc takes `token (k + j)`. -/
theorem readLines_outputText (token : Nat → String) :
    ∀ (outs : List (String × String)) (k : Nat) (more : List Char),
      (∀ o ∈ outs, OutputName o.1) → DelimitersFit (fun j => token (k + j)) outs →
        readLines (((outputText.go token outs k).toList ++ more).splitOn '\n') =
          (readLines (more.splitOn '\n')).map (outs ++ ·) := by
  intro outs
  induction outs with
  | nil => intro k more _ _; simp [outputText.go]
  | cons o rest ih =>
    obtain ⟨name, value⟩ := o
    intro k more hnames hfit
    obtain ⟨hne, heq, hlt, hlf⟩ := hnames (name, value) List.mem_cons_self
    have hrest : ∀ o ∈ rest, OutputName o.1 := fun o ho => hnames o (List.mem_cons_of_mem _ ho)
    have hname : name.toList ≠ [] := by simpa using hne
    rw [outputText.go]
    split
    · -- a heredoc between two delimiter lines
      next hmulti =>
      have hvalues : heredocValues ((name, value) :: rest) = value :: heredocValues rest := by
        simp [heredocValues, hmulti]
      obtain ⟨htok, hnotline⟩ : DelimiterFits (token k) value := hfit 0 value (by simp [hvalues])
      have hfit' : DelimitersFit (fun j => token (k + 1 + j)) rest := by
        intro j v hv
        have := hfit (j + 1) v (by simp [hvalues, hv])
        beta_reduce at this ⊢
        rwa [show k + (j + 1) = k + 1 + j by omega] at this
      set d := (delimiter (token k)).toList with hd
      have hdlf : '\n' ∉ d := by simp [hd, delimiter, htok]
      have hdne : d ≠ [] := by simp [hd, delimiter]
      have hheader : '\n' ∉ name.toList ++ '<' :: '<' :: d := by simp [hlf, hdlf]
      have htext : ((name ++ "<<" ++ delimiter (token k) ++ "\n" ++ value ++ "\n" ++
          delimiter (token k) ++ "\n" ++ outputText.go token rest (k + 1)).toList ++ more) =
          (name.toList ++ '<' :: '<' :: d) ++ '\n' :: (value.toList ++ '\n' :: (d ++ '\n' ::
            ((outputText.go token rest (k + 1)).toList ++ more))) := by
        simp [hd]
      rw [htext, List.splitOn_append_cons_self_of_not_mem hheader,
        List.splitOn_append_cons_self, List.splitOn_append_cons_self_of_not_mem hdlf,
        readLines_heredoc (by simp) (splitCommand_heredoc (by simpa using heq) (by simpa using hlt) d)
          hname hdne (linesUntil_append_cons hnotline _),
        ih (k + 1) more hrest hfit']
      simp [Option.map_map, Function.comp_def]
    · -- a line `name=value`
      next hsingle =>
      have hvalues : heredocValues ((name, value) :: rest) = heredocValues rest := by
        simp [heredocValues, hsingle]
      have hfit' : DelimitersFit (fun j => token (k + j)) rest := by
        intro j v hv
        exact hfit j v (by rw [hvalues]; exact hv)
      have hline : '\n' ∉ name.toList ++ '=' :: value.toList := by
        simp [hlf, lf_not_mem_of_single hsingle]
      have htext : ((name ++ "=" ++ value ++ "\n" ++ outputText.go token rest k).toList ++ more) =
          (name.toList ++ '=' :: value.toList) ++ '\n' ::
            ((outputText.go token rest k).toList ++ more) := by
        simp
      rw [htext, List.splitOn_append_cons_self_of_not_mem hline,
        readLines_single (by simp) (splitCommand_set (by simpa using heq) (by simpa using hlt) _)
          hname, ih k more hrest hfit']
      simp [Option.map_map, Function.comp_def]

/-! ## Files -/

/-- A text that ends a line: empty, or with a line feed last. -/
def EndsLine (text : String) : Prop :=
  text.toList = [] ∨ ∃ body, text.toList = body ++ ['\n']

instance : DecidablePred EndsLine := fun text =>
  decidable_of_iff (text.toList = [] ∨ text.toList.getLast? = some '\n')
    (by rw [List.getLast?_eq_some_iff]; rfl)

theorem endsLine_append {a b : String} (ha : EndsLine a) (hb : EndsLine b) : EndsLine (a ++ b) := by
  rcases hb with hb | ⟨body, hb⟩
  · rwa [EndsLine, String.toList_append, hb, List.append_nil]
  · exact .inr ⟨a.toList ++ body, by rw [String.toList_append, hb, List.append_assoc]⟩

theorem endsLine_append_lf (text : String) : EndsLine (text ++ "\n") :=
  .inr ⟨text.toList, by simp⟩

/-- Written outputs end a line. -/
theorem endsLine_outputText (token : Nat → String) :
    ∀ (outs : List (String × String)) (k : Nat), EndsLine (outputText.go token outs k)
  | [], _ => .inl (by simp [outputText.go])
  | (name, value) :: rest, k => by
    rw [outputText.go]
    split
    · exact endsLine_append (endsLine_append_lf _) (endsLine_outputText token rest (k + 1))
    · exact endsLine_append (endsLine_append_lf _) (endsLine_outputText token rest k)

/-- Outputs appended to a file that ends a line are read after the outputs
    of the file. -/
theorem readOutputs_append_outputText {old : String} {before : List (String × String)}
    (hold : readOutputs old = some before) (hend : EndsLine old)
    {outs : List (String × String)} {token : Nat → String} (hnames : ∀ o ∈ outs, OutputName o.1)
    (hfit : DelimitersFit token outs) :
    readOutputs (old ++ outputText outs token) = some (before ++ outs) := by
  have hfit0 : DelimitersFit (fun j => token (0 + j)) outs := by simpa using hfit
  -- what the written outputs read as on their own
  have hown : readLines ((outputText outs token).toList.splitOn '\n') = some outs := by
    have h := readLines_outputText token outs 0 [] hnames hfit0
    rw [List.append_nil] at h
    rw [outputText, h, List.splitOn_nil, readLines_nil_line]
    simp [readLines]
  rcases hend with hempty | ⟨body, hbody⟩
  · have hbefore : before = [] := by
      rw [readOutputs, hempty, List.splitOn_nil, readLines_nil_line] at hold
      simpa [readLines] using hold.symm
    rw [readOutputs, String.toList_append, hempty, List.nil_append, hown, hbefore, List.nil_append]
  · have hfile : readLines (body.splitOn '\n') = some before := by
      rw [readOutputs, hbody, List.splitOn_append_cons_self, List.splitOn_nil,
        readLines_append_nil] at hold
      exact hold
    rw [readOutputs, String.toList_append, hbody, List.append_assoc, List.singleton_append,
      List.splitOn_append_cons_self, readLines_append hfile, hown]
    rfl

/-- A file that ends a line, and to which successive calls append the texts
    of their outputs, reads as the outputs it held, followed by the outputs of
    each call in the order of the calls. Each call names outputs the file
    can carry and has delimiters that fit their values. -/
theorem readOutputs_after_writes {old : String} {before : List (String × String)}
    (hold : readOutputs old = some before) (hend : EndsLine old)
    (calls : List (List (String × String) × (Nat → String)))
    (hcalls : ∀ c ∈ calls, (∀ o ∈ c.1, OutputName o.1) ∧ DelimitersFit c.2 c.1) :
    readOutputs (old ++ String.join (calls.map fun c => outputText c.1 c.2)) =
      some (before ++ (calls.map (·.1)).flatten) := by
  induction calls generalizing old before with
  | nil => simpa using hold
  | cons c rest ih =>
    obtain ⟨hnames, hfit⟩ := hcalls c List.mem_cons_self
    -- the file after the first call ends a line and reads as one more run
    have hnext := readOutputs_append_outputText hold hend hnames hfit
    have hend' : EndsLine (old ++ outputText c.1 c.2) :=
      endsLine_append hend (endsLine_outputText c.2 c.1 0)
    have h := ih hnext hend' (fun c' hc' => hcalls c' (List.mem_cons_of_mem _ hc'))
    rw [List.map_cons, String.join_cons, ← String.append_assoc, h]
    simp

/-- A file holding `existing=1`, then a call that writes the two-line value of
    `src_files` and a call that writes `src=false`: the file reads as the
    three outputs, in order. -/
theorem readOutputs_after_two_writes :
    let calls : List (List (String × String) × (Nat → String)) :=
      [([("src_files", "a\nb")], fun _ => "t"), ([("src", "false")], fun _ => "u")]
    readOutputs "existing=1\n" = some [("existing", "1")] ∧ EndsLine "existing=1\n" ∧
      (∀ c ∈ calls, (∀ o ∈ c.1, OutputName o.1) ∧ DelimitersFit c.2 c.1) ∧
      readOutputs ("existing=1\n" ++ String.join (calls.map fun c => outputText c.1 c.2)) =
        some [("existing", "1"), ("src_files", "a\nb"), ("src", "false")] := by
  intro calls
  have hold : readOutputs "existing=1\n" = some [("existing", "1")] := by cbv
  have hend : EndsLine "existing=1\n" := by decide
  have hfit : DelimitersFit (fun _ => "t") [("src_files", "a\nb")] := by
    intro j v hv
    have hvalues : heredocValues [("src_files", "a\nb")] = ["a\nb"] := by cbv
    rw [hvalues] at hv
    cases j with
    | zero => cases hv; decide
    | succ j => simp at hv
  have hcalls : ∀ c ∈ calls, (∀ o ∈ c.1, OutputName o.1) ∧ DelimitersFit c.2 c.1 := by
    simp only [calls, List.mem_cons, List.not_mem_nil, or_false, forall_eq_or_imp, forall_eq]
    refine ⟨⟨by decide, hfit⟩, by decide, ?_⟩
    intro j v hv
    have hvalues : heredocValues [("src", "false")] = [] := by cbv
    simp [hvalues] at hv
  exact ⟨hold, hend, hcalls, (readOutputs_after_writes hold hend calls hcalls).trans rfl⟩

end ChangeFilter.Output
