import Mathlib
import ChangeFilter.Output.ListFormat

/-! # Shell words

    A POSIX shell reads a command line as words: unquoted blanks separate
    them, and quote removal takes away the quotes of `'…'` and `"…"` and the
    backslash before an unquoted character. `Shell.words` reads a text so,
    and refuses every text in which a character might mean more than itself:
    an unquoted character that a shell treats specially (an operator, an
    expansion, a pattern character, a comment, tilde or assignment mark, any
    blank other than a separating space or tab), a `$`, backtick or backslash
    inside double quotes, a line continuation, or an unclosed quote.

    `ReadsAs t cs` says that the reader takes the text `t`, wherever it
    stands outside quotes, as the characters `cs` added to the word being
    read. Pieces that read so join into longer ones, and every shell word
    reads as its own text.

    Main statements:
    * `readsAs_shellWord` — a shell word reads as its text;
    * `read_render_shell` — the shell list of non-empty paths reads as the
      paths, one word each;
    * `words_render_shell` — the shell list format reads back, under the
      strict reader, as the paths it lists. -/

namespace ChangeFilter.Shell

open Output

/-! ## The reader -/

/-- Characters that a POSIX shell gives a meaning of their own when they
    stand unquoted: operators, expansions, quotes, pattern characters, the
    comment, tilde and assignment marks, and the brace and `!` that some
    shells expand. `%` matters only inside a parameter expansion or a job id,
    and is not among them. -/
def special (c : Char) : Bool :=
  ['|', '&', ';', '<', '>', '(', ')', '$', '`', '\\', '"', '\'', '*', '?', '[', '#', '~', '=',
    '{', '}', '!'].contains c

/-- A character that stands for itself when unquoted: no blank of any kind,
    and not special. -/
def plain (c : Char) : Bool :=
  !Text.isBlank c && !special c

/-- Where the reader is: outside quotes, inside single or double quotes, or
    just after a backslash outside quotes. -/
inductive Quote where
  | bare
  | single
  | double
  | backslash
  deriving DecidableEq

/-- The word being read (`none` between words) with characters added; adding
    none leaves it as it is. -/
def extend (word : Option (List Char)) (cs : List Char) : Option (List Char) :=
  if cs = [] then word else some (word.getD [] ++ cs)

/-- Reads shell words from where the reader is; `word` is the word being
    read and `done` the words read before it. A quote starts a word even when
    nothing stands between the quotes. -/
def read : Quote → List Char → Option (List Char) → List (List Char) → Option (List (List Char))
  | .bare, [], word, done => some (done ++ word.toList)
  | .bare, c :: cs, word, done =>
    if c = ' ' ∨ c = '\t' then read .bare cs none (done ++ word.toList)
    else if c = '\'' then read .single cs (some (word.getD [])) done
    else if c = '"' then read .double cs (some (word.getD [])) done
    else if c = '\\' then read .backslash cs word done
    else if plain c then read .bare cs (extend word [c]) done
    else none
  | .single, [], _, _ => none
  | .single, c :: cs, word, done =>
    if c = '\'' then read .bare cs word done else read .single cs (extend word [c]) done
  | .double, [], _, _ => none
  | .double, c :: cs, word, done =>
    if c = '"' then read .bare cs word done
    else if c = '$' ∨ c = '`' ∨ c = '\\' then none
    else read .double cs (extend word [c]) done
  | .backslash, [], _, _ => none
  | .backslash, c :: cs, word, done =>
    if c = '\n' then none else read .bare cs (extend word [c]) done

/-- The words of a shell text, or `none` when a character of it might mean
    more than itself. -/
def words (t : String) : Option (List String) :=
  (read .bare t.toList none []).map (·.map String.ofList)

example : words "a 'b c' \"d\"\\'e" = some ["a", "b c", "d'e"] := by cbv
example : words "a $b" = none := by cbv

/-! ## Words under construction -/

@[simp] theorem extend_nil (word : Option (List Char)) : extend word [] = word := rfl

theorem extend_of_ne_nil (word : Option (List Char)) {cs : List Char} (h : cs ≠ []) :
    extend word cs = some (word.getD [] ++ cs) :=
  if_neg h

theorem extend_extend (word : Option (List Char)) (a b : List Char) :
    extend (extend word a) b = extend word (a ++ b) := by
  by_cases ha : a = []
  · subst ha
    rfl
  · by_cases hb : b = []
    · subst hb
      simp
    · rw [extend_of_ne_nil _ ha, extend_of_ne_nil _ hb, extend_of_ne_nil _ (by simp [ha])]
      simp

/-! ## Pieces that read as part of a word -/

/-- The reader takes `t`, wherever it stands outside quotes, as the
    characters `cs` added to the word being read. -/
def ReadsAs (t cs : List Char) : Prop :=
  ∀ rest word done, read .bare (t ++ rest) word done = read .bare rest (extend word cs) done

theorem ReadsAs.nil : ReadsAs [] [] :=
  fun _ _ _ => rfl

theorem ReadsAs.append {t t' cs cs' : List Char} (h : ReadsAs t cs) (h' : ReadsAs t' cs') :
    ReadsAs (t ++ t') (cs ++ cs') := by
  intro rest word done
  rw [List.append_assoc, h, h', extend_extend]

theorem readsAs_plain {c : Char} (h : plain c = true) : ReadsAs [c] [c] := by
  intro rest word done
  -- a plain character is no blank, quote or backslash
  have hs : special c = false := by simp_all [plain]
  have hb : Text.isBlank c = false := by simp_all [plain]
  have hsep : ¬ (c = ' ' ∨ c = '\t') := by
    rintro (rfl | rfl) <;> simp [Text.isBlank, Text.blankCodes] at hb
  have hq : c ≠ '\'' := by rintro rfl; simp [special] at hs
  have hd : c ≠ '"' := by rintro rfl; simp [special] at hs
  have he : c ≠ '\\' := by rintro rfl; simp [special] at hs
  simp [read, hsep, hq, hd, he, h]

theorem readsAs_plains : ∀ {cs : List Char}, (∀ c ∈ cs, plain c = true) → ReadsAs cs cs
  | [], _ => .nil
  | c :: _, h =>
    (readsAs_plain (h c List.mem_cons_self)).append
      (readsAs_plains fun d hd => h d (List.mem_cons_of_mem c hd))

theorem readsAs_escaped {c : Char} (h : c ≠ '\n') : ReadsAs ['\\', c] [c] := by
  intro rest word done
  simp [read, h]

/-- Inside single quotes every character up to the closing quote is taken
    as it is. -/
theorem read_single (rest : List Char) (done : List (List Char)) :
    ∀ {cs : List Char} (w : List Char), '\'' ∉ cs →
      read .single (cs ++ '\'' :: rest) (some w) done = read .bare rest (some (w ++ cs)) done
  | [], w, _ => by simp [read]
  | c :: cs, w, h => by
    have hc : c ≠ '\'' := fun hc => h (hc ▸ List.mem_cons_self)
    have hcs : '\'' ∉ cs := fun hm => h (List.mem_cons_of_mem c hm)
    simp only [List.cons_append, read, hc, if_false, extend_of_ne_nil _ (List.cons_ne_nil c []),
      Option.getD_some]
    rw [read_single rest done (w ++ [c]) hcs]
    simp

theorem readsAs_singleQuoted {cs : List Char} (hne : cs ≠ []) (h : '\'' ∉ cs) :
    ReadsAs ('\'' :: cs ++ ['\'']) cs := by
  intro rest word done
  simp only [List.cons_append, List.append_assoc, List.nil_append]
  rw [read, if_neg (by simp), if_pos rfl, read_single rest done _ h, extend_of_ne_nil _ hne]

/-- A character that keeps no meaning inside double quotes. -/
def quotable (c : Char) : Prop :=
  c ≠ '"' ∧ c ≠ '$' ∧ c ≠ '`' ∧ c ≠ '\\'

/-- Inside double quotes every character up to the closing quote is taken
    as it is, when none keeps a meaning there. -/
theorem read_double (rest : List Char) (done : List (List Char)) :
    ∀ {cs : List Char} (w : List Char), (∀ c ∈ cs, quotable c) →
      read .double (cs ++ '"' :: rest) (some w) done = read .bare rest (some (w ++ cs)) done
  | [], w, _ => by simp [read]
  | c :: cs, w, h => by
    obtain ⟨hq, hd, hb, he⟩ := h c List.mem_cons_self
    simp only [List.cons_append, read, hq, hd, hb, he, if_false, or_self,
      extend_of_ne_nil _ (List.cons_ne_nil c []), Option.getD_some]
    rw [read_double rest done (w ++ [c]) fun d hd => h d (List.mem_cons_of_mem c hd)]
    simp

theorem readsAs_doubleQuoted {cs : List Char} (hne : cs ≠ []) (h : ∀ c ∈ cs, quotable c) :
    ReadsAs ('"' :: cs ++ ['"']) cs := by
  intro rest word done
  simp only [List.cons_append, List.append_assoc, List.nil_append]
  rw [read, if_neg (by simp), if_neg (by simp), if_pos rfl, read_double rest done _ h,
    extend_of_ne_nil _ hne]

/-! ## The characters of a shell word -/

theorem toNat_lt_of_le {c d : Char} (h : c ≤ d) (hd : d.toNat < 128) : c.toNat < 128 := by
  rw [Char.le_def, UInt32.le_iff_toNat_le] at h
  exact lt_of_le_of_lt h hd

theorem shellSafe_lt {c : Char} (h : shellSafe c = true) : c.toNat < 128 := by
  simp only [shellSafe, isAlnumAscii, Bool.or_eq_true, Bool.and_eq_true, decide_eq_true_eq] at h
  rcases h with ((⟨-, h⟩ | ⟨-, h⟩) | ⟨-, h⟩) | h
  · exact toNat_lt_of_le h (by decide)
  · exact toNat_lt_of_le h (by decide)
  · exact toNat_lt_of_le h (by decide)
  · have hall : ∀ d ∈ ",._+:@%/-".toList, d.toNat < 128 := by simp
    exact hall c (List.contains_iff_mem.1 h)

/-- A character safe in a bare shell word stands for itself. -/
theorem plain_of_shellSafe {c : Char} (h : shellSafe c = true) : plain c = true := by
  -- the safe characters are ASCII, so it is enough to check the ASCII ones
  have hascii : ∀ n < 128, shellSafe (Char.ofNat n) = true → plain (Char.ofNat n) = true := by
    decide
  have := hascii c.toNat (shellSafe_lt h)
  rw [Char.ofNat_toNat] at this
  exact this h

/-- What may stand in double quotes in a shell word keeps no meaning there. -/
theorem quotable_of_double {c : Char} (h : shellSafe c = true ∨ c = '\'' ∨ Text.isBlank c = true) :
    quotable c := by
  rcases h with h | rfl | h
  · have hs : special c = false := by
      have := plain_of_shellSafe h
      simp_all [plain]
    refine ⟨?_, ?_, ?_, ?_⟩ <;> rintro rfl <;> simp [special] at hs
  · refine ⟨?_, ?_, ?_, ?_⟩ <;> decide
  · refine ⟨?_, ?_, ?_, ?_⟩ <;> rintro rfl <;> simp [Text.isBlank, Text.blankCodes] at h

/-- The pieces between the separators of a split hold no separator. -/
theorem not_mem_of_mem_splitOn {a : Char} :
    ∀ {l : List Char} {p : List Char}, p ∈ l.splitOn a → a ∉ p
  | [], p, hp => by
    rw [List.splitOn_nil, List.mem_singleton] at hp
    simp [hp]
  | x :: xs, p, hp => by
    rw [List.splitOn_cons_eq_if_modifyHead] at hp
    split at hp
    · -- a separator closes the piece before it
      rcases List.mem_cons.1 hp with rfl | hp
      · simp
      · exact not_mem_of_mem_splitOn hp
    · next hx =>
      have hxa : x ≠ a := fun h => hx (by simp [h])
      obtain ⟨q, qs, hsplit⟩ := List.exists_cons_of_ne_nil (List.splitOn_ne_nil a xs)
      rw [hsplit, List.modifyHead_cons] at hp
      rcases List.mem_cons.1 hp with rfl | hp
      · have hq : a ∉ q := not_mem_of_mem_splitOn (hsplit ▸ List.mem_cons_self)
        simp [hq, Ne.symm hxa]
      · exact not_mem_of_mem_splitOn (hsplit ▸ List.mem_cons_of_mem q hp)

/-- A quote-free piece of a split word reads as itself. -/
theorem readsAs_singleQuoted_piece {p : List Char} (h : '\'' ∉ p) :
    ReadsAs (singleQuoted (String.ofList p)).toList p := by
  unfold singleQuoted
  split
  · next hsafe =>
    rw [String.toList_ofList]
    refine readsAs_plains fun c hc => ?_
    simp only [Bool.or_eq_true, String.isEmpty_iff, List.all_eq_true, String.toList_ofList] at hsafe
    rcases hsafe with he | hall
    · have hp : p = [] := by simpa using congrArg String.toList he
      simp [hp] at hc
    · exact plain_of_shellSafe (hall c hc)
  · next hsafe =>
    have hne : p ≠ [] := by
      rintro rfl
      simp at hsafe
    simp only [String.toList_append, String.toList_ofList]
    exact readsAs_singleQuoted hne h

/-- Quote-free pieces joined by an escaped quote read as the pieces joined
    by a quote. -/
theorem readsAs_joined {f : List Char → List Char} :
    ∀ {pieces : List (List Char)}, (∀ p ∈ pieces, ReadsAs (f p) p) →
      ReadsAs (['\\', '\''].intercalate (pieces.map f)) (['\''].intercalate pieces)
  | [], _ => .nil
  | [p], h => by simpa using h p List.mem_cons_self
  | p :: q :: ps, h => by
    simp only [List.map_cons, List.intercalate_cons_cons]
    rw [← List.map_cons]
    exact ((h p List.mem_cons_self).append (readsAs_escaped (by decide))).append
      (readsAs_joined fun r hr => h r (List.mem_cons_of_mem p hr))

/-- Every shell word reads as its own text. -/
theorem readsAs_shellWord (v : String) : ReadsAs (shellWord v).toList v.toList := by
  unfold shellWord
  split
  · -- bare: empty, or made of safe characters
    next hsafe =>
    refine readsAs_plains fun c hc => ?_
    simp only [Bool.or_eq_true, String.isEmpty_iff, List.all_eq_true] at hsafe
    rcases hsafe with rfl | hall
    · simp at hc
    · exact plain_of_shellSafe (hall c hc)
  · next hbare =>
    have hne : v.toList ≠ [] := by
      intro hnil
      apply hbare
      simp [String.toList_eq_nil_iff.1 hnil]
    split
    · split
      · -- double quotes around safe characters, quotes and blanks
        next hdouble =>
        simp only [String.toList_append]
        refine readsAs_doubleQuoted hne fun c hc => quotable_of_double ?_
        simp only [List.all_eq_true, Bool.or_eq_true, decide_eq_true_eq] at hdouble
        exact (hdouble c hc).elim (fun h => h.elim .inl (.inr ∘ .inl)) (.inr ∘ .inr)
      · -- each quote-free piece quoted on its own, joined by `\'`
        have hpieces : ReadsAs
            (['\\', '\''].intercalate ((v.toList.splitOn '\'').map fun p =>
              (singleQuoted (String.ofList p)).toList))
            (['\''].intercalate (v.toList.splitOn '\'')) :=
          readsAs_joined fun p hp => readsAs_singleQuoted_piece (not_mem_of_mem_splitOn hp)
        rw [List.intercalate_splitOn] at hpieces
        simpa [List.map_map, Function.comp_def] using hpieces
    · -- single quotes around text without a single quote
      next hquote =>
      simp only [String.toList_append]
      exact readsAs_singleQuoted hne (by simpa using hquote)

/-! ## Lists of paths -/

/-- The shell list of non-empty paths reads as the paths, one word each. -/
theorem read_render_shell :
    ∀ {paths : List String} (done : List (List Char)), (∀ p ∈ paths, p ≠ "") →
      read .bare (render .shell paths).toList none done = some (done ++ paths.map String.toList)
  | [], done, _ => by simp [render, read]
  | [p], done, h => by
    have hne : p.toList ≠ [] := by simpa using h p List.mem_cons_self
    simpa [render, extend_of_ne_nil _ hne, read] using readsAs_shellWord p [] none done
  | p :: q :: ps, done, h => by
    have hne : p.toList ≠ [] := by simpa using h p List.mem_cons_self
    -- the first word, then a separating space, then the rest
    have hrest := @read_render_shell (q :: ps) (done ++ [p.toList])
      fun r hr => h r (List.mem_cons_of_mem p hr)
    simp only [render, List.map_cons, String.intercalate_cons_cons, String.toList_append] at hrest ⊢
    rw [List.append_assoc, readsAs_shellWord p, extend_of_ne_nil _ hne]
    simpa [read] using hrest

/-- The shell list format reads back as the paths it lists. For every list
    of non-empty paths, a POSIX shell splits the text into exactly the
    paths, one word each, after quote removal; no character of the text
    stands unquoted where the shell would expand, glob or split at it, and
    none inside double quotes keeps a meaning there. In particular each
    non-empty path is written as one word that reads as the path. -/
theorem words_render_shell :
    (∀ paths : List String, (∀ p ∈ paths, p ≠ "") → words (render .shell paths) = some paths) ∧
      ∀ v : String, v ≠ "" → words (shellWord v) = some [v] := by
  have hlist : ∀ paths : List String, (∀ p ∈ paths, p ≠ "") →
      words (render .shell paths) = some paths := by
    intro paths h
    rw [words, read_render_shell [] h]
    simp [Function.comp_def]
  refine ⟨hlist, fun v hv => ?_⟩
  simpa [render] using hlist [v] (by simpa using hv)

/-- A path with a quote among other special characters, one with a space and
    a quote, and a plain one. -/
theorem words_render_shell_at_quotes :
    (∀ p ∈ ["it's $HOME", "a b'c", "src/x.py"], p ≠ "") ∧
      words (render .shell ["it's $HOME", "a b'c", "src/x.py"]) =
        some ["it's $HOME", "a b'c", "src/x.py"] :=
  ⟨by decide, words_render_shell.1 _ (by decide)⟩

end ChangeFilter.Shell
