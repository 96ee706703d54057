import Mathlib
import ChangeFilter.Proofs.Output.Shell

/-! # Backslash-escaped lists in a shell

    The escape list format puts a backslash before every character that is
    not safe in a bare shell word and joins the words with spaces. A POSIX
    shell takes a backslash outside quotes as quoting the character after
    it, with one exception: a backslash before a line feed is a line
    continuation, and the shell removes the pair before it splits the text
    into words. `Shell.joinLines` is that removal, and `Shell.shellWords`
    reads a text as the shell does: continuations removed, then split into
    words and unquoted by the strict reader `Shell.words`.

    So a path of the escape list reads back as the path with its line feeds
    removed, and a path made only of line feeds reads as no word at all.
    Every other character is quoted by its backslash, so no blank, quote,
    expansion or pattern character stands unquoted.

    Main statements:
    * `joinLines_render_escape` — removing continuations from an escape
      list removes exactly the escaped line feeds;
    * `escape_list_words` — what a shell reads from an escape list, and that
      it reads the paths back exactly when no path holds a line feed;
    * `escape_list_drops_line_feed` — a path with a line feed does not read
      back. -/

namespace ChangeFilter.Shell

open Output

/-! ## Line continuations -/

/-- The quoting after a character that is not a backslash outside single
    quotes: a single or double quote opens or closes its kind of quotes. -/
def Quote.after : Quote → Char → Quote
  | .single, c => if c = '\'' then .bare else .single
  | .double, c => if c = '"' then .bare else .double
  | _, c => if c = '\'' then .single else if c = '"' then .double else .bare

/-- Removes the line continuations of a shell text, as a POSIX shell does
    before it splits the text into words: outside single quotes, a backslash
    and the line feed after it are dropped. A backslash before any other
    character is kept with that character, so an escaped backslash starts
    no continuation and an escaped quote opens no quotes. -/
def joinLines : Quote → List Char → List Char
  | _, [] => []
  | q, c :: cs =>
    if c = '\\' ∧ q ≠ .single then
      match cs with
      | [] => ['\\']
      | d :: ds => if d = '\n' then joinLines q ds else '\\' :: d :: joinLines q ds
    else c :: joinLines (q.after c) cs

/-- The words a POSIX shell reads from a text: line continuations removed,
    then split at blanks and unquoted, or `none` where a character might
    mean more than itself. -/
def shellWords (t : String) : Option (List String) :=
  words (String.ofList (joinLines .bare t.toList))

example : shellWords "a\\\nb c\\\\\nd" = none := by cbv
example : shellWords "a\\\nb 'c\\\nd'" = some ["ab", "c\\\nd"] := by cbv

/-! ## The escaped characters -/

/-- A character as the escape format writes it: bare when safe, else behind
    a backslash. -/
def escapeChar (c : Char) : List Char :=
  if shellSafe c then [c] else ['\\', c]

theorem toList_backslashed (v : String) :
    (backslashed v).toList = v.toList.flatMap escapeChar := by
  rw [backslashed, String.toList_join, List.flatMap_map]
  refine List.flatMap_congr fun c _ => ?_
  by_cases hc : shellSafe c = true <;> simp [escapeChar, hc]

/-- The characters that change the quoting or start a continuation are not
    safe. -/
theorem ne_of_shellSafe {c : Char} (h : shellSafe c = true) :
    c ≠ '\\' ∧ c ≠ '\n' ∧ c ≠ '\'' ∧ c ≠ '"' := by
  have hp := plain_of_shellSafe h
  refine ⟨?_, ?_, ?_, ?_⟩ <;> rintro rfl <;> simp [plain, special, Text.isBlank, Text.blankCodes] at hp

/-- Outside quotes, a safe character passes through and leaves the reader
    outside quotes. -/
theorem joinLines_safe {c : Char} (h : shellSafe c = true) (rest : List Char) :
    joinLines .bare (c :: rest) = c :: joinLines .bare rest := by
  obtain ⟨hb, -, hq, hd⟩ := ne_of_shellSafe h
  rw [joinLines.eq_def]
  simp [hb, Quote.after, hq, hd]

/-- An escaped character passes through with its backslash, unless it is a
    line feed, which goes with its backslash. -/
theorem joinLines_escaped (c : Char) (rest : List Char) :
    joinLines .bare ('\\' :: c :: rest) =
      (if c = '\n' then [] else ['\\', c]) ++ joinLines .bare rest := by
  rw [joinLines.eq_def]
  by_cases hc : c = '\n' <;> simp [hc]

/-- Removing continuations from escaped text removes its line feeds. -/
theorem joinLines_flatMap_escapeChar (rest : List Char) :
    ∀ cs : List Char, joinLines .bare (cs.flatMap escapeChar ++ rest) =
      (cs.filter (· ≠ '\n')).flatMap escapeChar ++ joinLines .bare rest
  | [] => rfl
  | c :: cs => by
    rw [List.flatMap_cons, List.append_assoc]
    by_cases hsafe : shellSafe c = true
    · -- a safe character, which is no line feed
      have hlf : c ≠ '\n' := (ne_of_shellSafe hsafe).2.1
      rw [escapeChar, if_pos hsafe, List.singleton_append, joinLines_safe hsafe,
        joinLines_flatMap_escapeChar rest cs, List.filter_cons_of_pos (by simpa using hlf),
        List.flatMap_cons, escapeChar, if_pos hsafe]
      rfl
    · -- a character behind a backslash
      rw [escapeChar, if_neg hsafe, List.cons_append, List.cons_append, List.nil_append,
        joinLines_escaped, joinLines_flatMap_escapeChar rest cs]
      by_cases hlf : c = '\n'
      · rw [if_pos hlf, List.filter_cons_of_neg (by simpa using hlf)]
        rfl
      · rw [if_neg hlf, List.filter_cons_of_pos (by simpa using hlf), List.flatMap_cons, escapeChar,
          if_neg hsafe]
        rfl

/-- A path with its line feeds removed. -/
def dropLineFeeds (p : String) : List Char :=
  p.toList.filter (· ≠ '\n')

/-- Removing continuations from an escape list removes exactly the escaped
    line feeds. -/
theorem joinLines_render_escape :
    ∀ paths : List String, joinLines .bare (render .escape paths).toList =
      [' '].intercalate (paths.map fun p => (dropLineFeeds p).flatMap escapeChar)
  | [] => by simp [render, joinLines]
  | [p] => by
    simpa [render, toList_backslashed, dropLineFeeds, joinLines] using
      joinLines_flatMap_escapeChar [] p.toList
  | p :: q :: ps => by
    have hspace : joinLines .bare (' ' :: (render .escape (q :: ps)).toList) =
        ' ' :: joinLines .bare (render .escape (q :: ps)).toList := by
      rw [joinLines.eq_def]
      simp [Quote.after]
    have hrest := joinLines_render_escape (q :: ps)
    simp only [render, List.map_cons, String.intercalate_cons_cons, String.toList_append,
      toList_backslashed] at hrest hspace ⊢
    rw [show " ".toList = [' '] from rfl, List.append_assoc, List.singleton_append,
      joinLines_flatMap_escapeChar, hspace, hrest]
    simp [dropLineFeeds, List.intercalate_cons_cons]

/-! ## Reading the words -/

/-- Escaped text without a line feed reads as the text. -/
theorem readsAs_escapeChars : ∀ {cs : List Char}, '\n' ∉ cs → ReadsAs (cs.flatMap escapeChar) cs
  | [], _ => .nil
  | c :: cs, h => by
    have hc : c ≠ '\n' := fun hc => h (hc ▸ List.mem_cons_self)
    have hcs : '\n' ∉ cs := fun hm => h (List.mem_cons_of_mem c hm)
    have hone : ReadsAs (escapeChar c) [c] := by
      unfold escapeChar
      split
      · next hsafe => exact readsAs_plain (plain_of_shellSafe hsafe)
      · exact readsAs_escaped hc
    simpa using hone.append (readsAs_escapeChars hcs)

/-- A word read between separators: nothing when it is empty. -/
theorem toList_extend_none (w : List Char) :
    (extend none w).toList = if w = [] then [] else [w] := by
  by_cases hw : w = [] <;> simp [extend, hw]

/-- Words of escaped text without line feeds, joined by spaces, read as the
    non-empty ones among them. -/
theorem read_intercalate_escaped :
    ∀ {ws : List (List Char)} (done : List (List Char)), (∀ w ∈ ws, '\n' ∉ w) →
      read .bare ([' '].intercalate (ws.map fun w => w.flatMap escapeChar)) none done =
        some (done ++ ws.filter (· ≠ []))
  | [], done, _ => by simp [read]
  | [w], done, h => by
    have hw := readsAs_escapeChars (h w List.mem_cons_self) [] none done
    simp only [List.append_nil] at hw
    rw [List.map_singleton, List.intercalate_singleton, hw, read, toList_extend_none]
    by_cases hne : w = [] <;> simp [hne]
  | w :: v :: ws, done, h => by
    have hw := readsAs_escapeChars (h w List.mem_cons_self)
    have hrest := @read_intercalate_escaped (v :: ws) (done ++ (extend none w).toList)
      fun u hu => h u (List.mem_cons_of_mem w hu)
    rw [List.map_cons, List.map_cons, List.intercalate_cons_cons, List.append_assoc,
      List.singleton_append, ← List.map_cons, hw,
      read, if_pos (Or.inl rfl), hrest, toList_extend_none]
    by_cases hne : w = [] <;> simp [hne, List.filter_cons]

/-! ## Lists of paths -/

theorem words_eq (t : String) :
    words t = (read .bare t.toList none []).map (·.map String.ofList) := rfl

/-- A list whose members a map and a filter keep as they are. -/
theorem eq_of_filter_map_eq {f : String → String} {q : String → Bool}
    (hf : ∀ p, (f p).length ≤ p.length) :
    ∀ {ps : List String}, (ps.map f).filter q = ps → ∀ p ∈ ps, f p = p
  | [], _ => by simp
  | p :: ps, h => by
    intro r hr
    by_cases hq : q (f p) = true
    · rw [List.map_cons, List.filter_cons, if_pos hq, List.cons.injEq] at h
      rcases List.mem_cons.1 hr with rfl | hr
      · exact h.1
      · exact eq_of_filter_map_eq hf h.2 r hr
    · -- dropping `p` leaves a list too short to be `p :: ps`
      rw [List.map_cons, List.filter_cons, if_neg hq] at h
      have hlen := congrArg List.length h
      have := List.length_filter_le q (ps.map f)
      simp at hlen this
      omega

/-- A shell reads the escape list as the paths with their line feeds
    removed, leaving out those that were only line feeds. -/
theorem shellWords_render_escape (paths : List String) :
    shellWords (render .escape paths) =
      some ((paths.map fun p => String.ofList (dropLineFeeds p)).filter (· ≠ "")) := by
  have hlf : ∀ w ∈ paths.map dropLineFeeds, '\n' ∉ w := by
    simp [dropLineFeeds]
  have hmap : paths.map (fun p => (dropLineFeeds p).flatMap escapeChar) =
      (paths.map dropLineFeeds).map fun w => w.flatMap escapeChar := by
    simp [Function.comp_def]
  rw [shellWords, words_eq, String.toList_ofList, joinLines_render_escape, hmap,
    read_intercalate_escaped [] hlf]
  simp [Function.comp_def, List.filter_map]

/-- What a POSIX shell reads from the escape list. Every character outside
    the safe set is written behind a backslash. For every list of paths, the
    shell reads the list as the paths with their line feeds removed, leaving
    out the paths that were only line feeds: a backslash before a line feed
    is a line continuation, and every other backslash quotes its character,
    so nothing stands unquoted that a shell would split, expand or match.
    Hence a list of non-empty paths reads back as exactly the paths if and
    only if no path holds a line feed. -/
theorem escape_list_words :
    (∀ v : String, (backslashed v).toList =
      v.toList.flatMap fun c => if shellSafe c then [c] else ['\\', c]) ∧
      (∀ paths : List String, shellWords (render .escape paths) =
        some ((paths.map fun p => String.ofList (dropLineFeeds p)).filter (· ≠ ""))) ∧
      ∀ paths : List String, (∀ p ∈ paths, p ≠ "") →
        (shellWords (render .escape paths) = some paths ↔ ∀ p ∈ paths, '\n' ∉ p.toList) := by
  have hread := shellWords_render_escape
  refine ⟨toList_backslashed, hread, fun paths hne => ⟨fun h => ?_, fun h => ?_⟩⟩
  · -- reading back every path leaves every path unchanged
    rw [hread, Option.some.injEq] at h
    have hsame := eq_of_filter_map_eq (fun p => by
      rw [String.length_ofList, ← String.length_toList]
      exact List.length_filter_le _ _) h
    intro p hp hlf
    have hlen : (dropLineFeeds p).length < p.toList.length :=
      List.length_filter_lt_length_iff_exists.2 ⟨'\n', hlf, by simp⟩
    have := congrArg (fun s => s.toList.length) (hsame p hp)
    simp at this
    omega
  · rw [hread]
    congr 1
    -- no line feed to drop, and no path to leave out
    have hkeep : ∀ p ∈ paths, String.ofList (dropLineFeeds p) = p := by
      intro p hp
      have hno : ∀ c ∈ p.toList, decide (c ≠ '\n') = true := by
        intro c hc
        have hlf : c ≠ '\n' := by
          rintro rfl
          exact h p hp hc
        simpa using hlf
      rw [dropLineFeeds, List.filter_eq_self.2 hno, String.ofList_toList]
    rw [List.map_congr_left hkeep, List.map_id']
    exact List.filter_eq_self.2 fun p hp => by simpa using hne p hp

/-- A path with blanks and parentheses, one with a quote, and a plain one
    with a comma. -/
theorem escape_list_words_at_blanks :
    (∀ p ∈ ["my file(1).txt", "it's", "src/a,b.py"], p ≠ "") ∧
      (shellWords (render .escape ["my file(1).txt", "it's", "src/a,b.py"]) =
          some ["my file(1).txt", "it's", "src/a,b.py"] ↔
        ∀ p ∈ ["my file(1).txt", "it's", "src/a,b.py"], '\n' ∉ p.toList) :=
  ⟨by simp, escape_list_words.2.2 _ (by simp)⟩

/-- A path with a line feed in it does not read back: the shell takes the
    escaped line feed as a line continuation and reads `ab`. -/
theorem escape_list_drops_line_feed :
    shellWords (render .escape ["a\nb"]) ≠ some ["a\nb"] := by
  have hdrop : dropLineFeeds "a\nb" = ['a', 'b'] := by
    simp [dropLineFeeds]
  rw [shellWords_render_escape, List.map_singleton, hdrop]
  simp

end ChangeFilter.Shell
