import ChangeFilter.Proofs.Git.Trace

/-! # Resolving a short name to a local ref

    `localRef` lists the refs of a short name with `show-ref` and reads each
    line by a search for its first ref prefix (`refOfLine`): the ref of a line
    is its text from the first `refs/heads/`, `refs/tags/` or
    `refs/remotes/origin/` on, wherever that prefix stands in the line. Of the
    refs so read whose short name is the name looked up, the branch of
    `origin` is preferred, else the first one is taken.

    In a listing of lines `<sha> <ref>` the search reads each ref as its
    `searchedRef`: the ref itself when it starts with a ref prefix and holds no
    other one, but the tail after an inner ref prefix otherwise. A branch of
    another remote named `refs/remotes/upstream/refs/heads/x` is read as
    `refs/heads/x`, a ref that is not listed.

    Main statements:
    * `refsNamed_showRefText` — the refs of a name in a listing are its
      searched refs that are the name under a prefix;
    * `localRef_resolves` — a SHA resolves to itself when the commit probe
      succeeds; any other name resolves, among the searched refs of the
      listing, to the branch of `origin`, else to the first branch or tag of
      the name, else to nothing;
    * `localRef_of_plain_listing` — when no listed ref holds a ref prefix after
      its start, the lookup picks among the listed refs themselves. -/

namespace ChangeFilter.Git

/-! ## Listings -/

/-- A lower-case hexadecimal digit, a character of a SHA. -/
def isLowerHex (c : Char) : Bool :=
  ('0' ≤ c && c ≤ '9') || ('a' ≤ c && c ≤ 'f')

/-- What `show-ref` prints for a listing of SHAs and refs: a line
    `<sha> <ref>` for each. -/
def showRefText (listing : List (String × String)) : String :=
  String.join (listing.map fun e => e.1 ++ " " ++ e.2 ++ "\n")

/-- A listing as `show-ref` prints it: each SHA is lower-case hexadecimal and
    no ref holds a line break. -/
def WellListed (listing : List (String × String)) : Prop :=
  ∀ e ∈ listing, (∀ c ∈ e.1.toList, isLowerHex c = true) ∧ ∀ c ∈ e.2.toList, isLineBreak c = false

instance : DecidablePred WellListed := fun listing =>
  inferInstanceAs (Decidable (∀ e ∈ listing,
    (∀ c ∈ e.1.toList, isLowerHex c = true) ∧ ∀ c ∈ e.2.toList, isLineBreak c = false))

/-! ## Lines of a listing -/

theorem isLineBreak_of_isLowerHex {c : Char} (h : isLowerHex c = true) : isLineBreak c = false := by
  by_contra hb
  simp only [Bool.not_eq_false, isLineBreak, Bool.or_eq_true, decide_eq_true_eq] at hb
  rcases hb with ((((((((hb | hb) | hb) | hb) | hb) | hb) | hb) | hb) | hb) | hb <;> subst hb <;>
    simp [isLowerHex] at h

/-- One step of the line reader on a character other than a carriage
    return. The reader's own equation lemmas split on the `\r\n` pattern and
    are slow to build, so this step goes through its unfolding. -/
theorem lines_go_cons_of_ne {c : Char} (hc : c ≠ '\r') (rest cur : List Char) (acc : List String) :
    lines.go (c :: rest) cur acc =
      if isLineBreak c then lines.go rest [] (String.ofList cur.reverse :: acc)
      else lines.go rest (c :: cur) acc := by
  rw [lines.go.eq_def]
  split
  · next h => cases h
  · next h =>
    cases h
    exact absurd rfl hc
  · next h =>
    cases h
    rfl

/-- A line without breaks is read up to the line feed that ends it. -/
theorem lines_go_append_lf :
    ∀ (l : List Char) (rest cur : List Char) (acc : List String),
      (∀ c ∈ l, isLineBreak c = false) →
        lines.go (l ++ '\n' :: rest) cur acc = lines.go rest [] (String.ofList (cur.reverse ++ l) :: acc)
  | [], rest, cur, acc, _ => by
    rw [List.nil_append, lines_go_cons_of_ne (by decide), if_pos (by decide)]
    simp
  | c :: l, rest, cur, acc, h => by
    have hc : isLineBreak c = false := h c (by simp)
    -- a character that breaks no line is not a carriage return either
    have hcr : c ≠ '\r' := by
      rintro rfl
      simp [isLineBreak] at hc
    rw [List.cons_append, lines_go_cons_of_ne hcr, if_neg (by simp [hc]),
      lines_go_append_lf l rest (c :: cur) acc (fun x hx => h x (List.mem_cons_of_mem _ hx))]
    simp

theorem lines_go_join (ls : List String) (h : ∀ l ∈ ls, ∀ c ∈ l.toList, isLineBreak c = false)
    (acc : List String) :
    lines.go (String.join (ls.map (· ++ "\n"))).toList [] acc = acc.reverse ++ ls := by
  induction ls generalizing acc with
  | nil =>
    rw [lines.go.eq_def]
    simp
  | cons l ls ih =>
    simp only [List.map_cons, String.join_cons, String.toList_append]
    rw [show l.toList ++ "\n".toList = l.toList ++ ['\n'] from rfl, List.append_assoc,
      List.singleton_append, lines_go_append_lf _ _ _ _ (h l (by simp)),
      ih (fun l' hl' => h l' (List.mem_cons_of_mem _ hl'))]
    simp

/-- The lines of a listing are its entries, `<sha> <ref>` each. -/
theorem lines_showRefText {listing : List (String × String)} (h : WellListed listing) :
    lines (showRefText listing) = listing.map fun e => e.1 ++ " " ++ e.2 := by
  have hjoin : showRefText listing = String.join ((listing.map fun e => e.1 ++ " " ++ e.2).map
      (· ++ "\n")) := by
    simp [showRefText, Function.comp_def]
  rw [lines, hjoin, lines_go_join]
  · simp
  · simp only [List.mem_map]
    rintro _ ⟨e, he, rfl⟩ c hc
    simp only [String.toList_append, List.mem_append] at hc
    obtain ⟨hsha, href⟩ := h e he
    rcases hc with (hc | hc) | hc
    · exact isLineBreak_of_isLowerHex (hsha c hc)
    · rw [show " ".toList = [' '] from rfl, List.mem_singleton] at hc
      subst hc
      decide
    · exact href c hc

/-! ## Reading a ref from a line -/

theorem exists_toList_of_mem_refPrefixes {p : String} (hp : p ∈ refPrefixes) :
    ∃ t, p.toList = 'r' :: t := by
  simp only [refPrefixes, List.mem_cons, List.not_mem_nil, or_false] at hp
  rcases hp with rfl | rfl | rfl <;> exact ⟨_, rfl⟩

/-- Text in which no `r` stands holds no start of a ref prefix, so the search
    passes over it. -/
theorem refOfLine_go_append {pre : List Char} (h : ∀ c ∈ pre, c ≠ 'r') (cs : List Char) :
    refOfLine.go (pre ++ cs) = refOfLine.go cs := by
  induction pre with
  | nil => rfl
  | cons c pre ih =>
    have hc : c ≠ 'r' := h c (by simp)
    have hnone : refPrefixes.find? (fun p => p.toList.isPrefixOf (c :: (pre ++ cs))) = none := by
      rw [List.find?_eq_none]
      intro p hp
      obtain ⟨t, ht⟩ := exists_toList_of_mem_refPrefixes hp
      simp [ht, List.isPrefixOf, Ne.symm hc]
    rw [List.cons_append, refOfLine.go, hnone]
    exact ih (fun x hx => h x (List.mem_cons_of_mem _ hx))

/-- The ref of a listed line is found in its ref: the SHA and the blank hold
    no start of a prefix. -/
theorem refOfLine_entry {sha ref : String} (h : ∀ c ∈ sha.toList, isLowerHex c = true) :
    refOfLine (sha ++ " " ++ ref) = refOfLine ref := by
  have hpre : ∀ c ∈ sha.toList ++ [' '], c ≠ 'r' := by
    intro c hc
    simp only [List.mem_append, List.mem_singleton] at hc
    rcases hc with hc | rfl
    · rintro rfl
      simp [isLowerHex] at h
      exact absurd (h 'r' hc) (by decide)
    · decide
  simp only [refOfLine, String.toList_append]
  rw [show " ".toList = [' '] from rfl, List.append_assoc, ← List.append_assoc,
    refOfLine_go_append hpre]

/-- A ref prefix followed by one name is no other prefix followed by another. -/
theorem refPrefix_append_inj {p q a b : String} (hp : p ∈ refPrefixes) (hq : q ∈ refPrefixes)
    (h : p ++ a = q ++ b) : p = q ∧ a = b := by
  have hl := congrArg String.toList h
  simp only [String.toList_append] at hl
  simp only [refPrefixes, List.mem_cons, List.not_mem_nil, or_false] at hp hq
  rcases hp with rfl | rfl | rfl <;> rcases hq with rfl | rfl | rfl <;>
    simp_all [← String.toList_inj]

/-- The ref a search reads from a listed ref: the ref from its first ref prefix
    on, or the whole ref when it holds none. -/
def searchedRef (ref : String) : String :=
  ((refOfLine ref).map Prod.fst).getD ref

/-- The refs that stand for a name: the name under each ref prefix. -/
def namedRefs (name : String) : List String :=
  refPrefixes.map (· ++ name)

theorem not_prefix_of_refOfLine_go_eq_none {cs : List Char} (h : refOfLine.go cs = none)
    {p : String} (hp : p ∈ refPrefixes) : ¬ p.toList <+: cs := by
  intro hpre
  cases cs with
  | nil =>
    obtain ⟨t, ht⟩ := exists_toList_of_mem_refPrefixes hp
    rw [ht] at hpre
    simpa using hpre.length_le
  | cons c rest =>
    rw [refOfLine.go] at h
    split at h
    · cases h
    · rename_i hnone
      rw [List.find?_eq_none] at hnone
      exact hnone p hp (List.isPrefixOf_iff_prefix.mpr hpre)

/-- A ref read from a line is the name's exactly when its short name is the
    name. -/
theorem searchedRef_mem_namedRefs {ref r short : String} (h : refOfLine ref = some (r, short))
    (name : String) : searchedRef ref = r ∧ (r ∈ namedRefs name ↔ short = name) := by
  obtain ⟨p, hp, rfl⟩ := refOfLine_go_eq_some h
  refine ⟨by simp [searchedRef, h], ?_⟩
  simp only [namedRefs, List.mem_map]
  constructor
  · rintro ⟨q, hq, heq⟩
    exact (refPrefix_append_inj hq hp heq).2.symm
  · rintro rfl
    exact ⟨p, hp, rfl⟩

/-- A ref in which the search finds no prefix stands for no name. -/
theorem searchedRef_not_mem_namedRefs {ref : String} (h : refOfLine ref = none) (name : String) :
    searchedRef ref ∉ namedRefs name := by
  simp only [searchedRef, h, Option.map_none, Option.getD_none, namedRefs, List.mem_map, not_exists,
    not_and]
  rintro q hq rfl
  exact not_prefix_of_refOfLine_go_eq_none h hq (by simp)

/-- The refs of a name in a listing are its searched refs that are the name
    under a prefix, in the order of the listing. -/
theorem refsNamed_showRefText {listing : List (String × String)} (h : WellListed listing)
    (name : String) :
    refsNamed (showRefText listing) name =
      (listing.map fun e => searchedRef e.2).filter (· ∈ namedRefs name) := by
  rw [refsNamed, lines_showRefText h]
  induction listing with
  | nil => rfl
  | cons e rest ih =>
    have he := h e (by simp)
    have ih' := ih (fun e' he' => h e' (List.mem_cons_of_mem _ he'))
    rw [List.map_cons, List.filterMap_cons, refOfLine_entry he.1, List.map_cons, List.filter_cons,
      ih']
    cases hline : refOfLine e.2 with
    | none => simp [searchedRef_not_mem_namedRefs hline name]
    | some found =>
      obtain ⟨hr, hiff⟩ := searchedRef_mem_namedRefs hline name
      by_cases hshort : found.2 = name <;> simp [hr, hiff, hshort]

/-! ## The preferred ref -/

/-- The ref to pick for `name` among refs: the branch of `origin` of that name
    when it is among them, else the first branch or tag of that name. -/
def pickRef (name : String) (refs : List String) : Option String :=
  if ("refs/remotes/origin/" ++ name) ∈ refs then some ("refs/remotes/origin/" ++ name)
  else refs.find? fun r => r = "refs/heads/" ++ name ∨ r = "refs/tags/" ++ name

/-- Of the refs that stand for a name, the branch of `origin` is the only one
    under the prefix of `origin`. -/
theorem originPrefix_of_mem_namedRefs {r name : String} (h : r ∈ namedRefs name) :
    "refs/remotes/origin/".isPrefixOf r = decide (r = "refs/remotes/origin/" ++ name) := by
  simp only [namedRefs, refPrefixes, List.map_cons, List.map_nil, List.mem_cons,
    List.not_mem_nil, or_false] at h
  rw [Bool.eq_iff_iff, String.isPrefixOf, String.startsWith_string_iff, decide_eq_true_iff]
  rcases h with rfl | rfl | rfl
  · simp [← String.toList_inj]
  · simp [← String.toList_inj]
  · simp

theorem find?_eq_self (x : String) (l : List String) :
    l.find? (fun r => r = x) = if x ∈ l then some x else none := by
  induction l with
  | nil => simp
  | cons y l ih =>
    by_cases hy : y = x
    · subst hy
      simp
    · simp [hy, ih, Ne.symm hy]

/-- Preferring the branch of `origin` among the refs of a name is picking it
    when it is there, else the first branch or tag of the name. -/
theorem preferredRef_filter_namedRefs (name : String) (refs : List String) :
    preferredRef (refs.filter (· ∈ namedRefs name)) = pickRef name refs := by
  rw [preferredRef, List.find?_filter,
    @List.find?_congr _ _ (fun r => decide (r = "refs/remotes/origin/" ++ name)) _ ?_, find?_eq_self,
    pickRef]
  · by_cases hin : "refs/remotes/origin/" ++ name ∈ refs
    · simp [hin]
    · -- without the branch of `origin`, the first ref of the name is a branch or tag
      simp only [hin, if_false, List.head?_filter]
      apply List.find?_congr
      intro r hr
      have hne : r ≠ "refs/remotes/origin/" ++ name := fun h => hin (h ▸ hr)
      simp [namedRefs, refPrefixes, hne]
  · intro r _
    by_cases hr : r ∈ namedRefs name
    · simp [hr, originPrefix_of_mem_namedRefs hr]
    · have hne : r ≠ "refs/remotes/origin/" ++ name := by
        rintro rfl
        exact hr (by simp [namedRefs, refPrefixes])
      simp [hr, hne]

/-! ## The lookup -/

/-- The ref a listing gives a name that is no SHA. -/
theorem found_showRefText {name : String} (hsha : isSha name = false)
    {listing : List (String × String)} (hlisted : WellListed listing) (code : Int) (err : String) :
    (Reply.exited code (showRefText listing) err).found name =
      pickRef name (listing.map fun e => searchedRef e.2) := by
  simp [Reply.found, hsha, refsNamed_showRefText hlisted, preferredRef_filter_namedRefs]

/-- A lookup whose command exits gives the ref its reply names. -/
theorem runs_localRef_exited {name : String} {s : Script} {cs : List (List String)} {code : Int}
    {out err : String} (hreply : s.answer cs (lookupArgs name) = .exited code out err) :
    ∃ L, Runs (localRef name) s cs [lookupArgs name]
      (.ok ((Reply.exited code out err).found name)) L := by
  obtain ⟨r, L, hrun, hok, -⟩ := runs_run (lookupArgs name) false s cs
  -- an exit, whatever its code, completes an unchecked command
  have hr : r = .ok ⟨code, out, err⟩ := (hok ⟨code, out, err⟩).mpr ⟨hreply, by simp⟩
  subst hr
  unfold localRef hasCommit
  by_cases hsha : isSha name = true
  · have hargs : lookupArgs name = ["cat-file", "-e", name ++ "^\x7bcommit\x7d"] := by
      simp [lookupArgs, hsha]
    rw [if_pos hsha]
    rw [hargs] at hrun ⊢
    have h := (hrun.bind_ok (f := fun r => pure (r.code == 0)) (runs_pure _ s _)).bind_ok
      (f := fun b => pure (if b then some name else none)) (runs_pure _ s _)
    rw [List.append_nil, List.append_nil] at h
    refine ⟨_, h.of_eq rfl ?_⟩
    simp [Reply.found, hsha]
  · have hargs : lookupArgs name = ["show-ref", name] := by simp [lookupArgs, hsha]
    rw [if_neg hsha]
    rw [hargs] at hrun ⊢
    have h := hrun.bind_ok (f := fun r => pure (preferredRef (refsNamed r.stdout name)))
      (runs_pure _ s _)
    rw [List.append_nil] at h
    refine ⟨_, h.of_eq rfl ?_⟩
    simp [Reply.found, hsha]

/-- How a short name or SHA resolves. A SHA resolves to itself when the probe
    for its commit exits with code zero, else to nothing. Any other name is
    looked up in a listing of lines `<sha> <ref>`, each ref read by the search
    for its first ref prefix; among the refs so read it resolves to the branch
    of `origin` of that name, else to the first branch or tag of that name,
    else to nothing. -/
theorem localRef_resolves (name : String) (s : Script) (cs : List (List String)) :
    (isSha name = true → ∀ code out err,
      s.answer cs (lookupArgs name) = .exited code out err →
        ∃ L, Runs (localRef name) s cs [lookupArgs name]
          (.ok (if code = 0 then some name else none)) L) ∧
    (isSha name = false → ∀ listing code err, WellListed listing →
      s.answer cs (lookupArgs name) = .exited code (showRefText listing) err →
        ∃ L, Runs (localRef name) s cs [lookupArgs name]
          (.ok (pickRef name (listing.map fun e => searchedRef e.2))) L) := by
  constructor
  · intro hsha code out err hreply
    obtain ⟨L, h⟩ := runs_localRef_exited hreply
    exact ⟨L, h.of_eq rfl (by simp [Reply.found, hsha])⟩
  · intro hsha listing code err hlisted hreply
    obtain ⟨L, h⟩ := runs_localRef_exited hreply
    exact ⟨L, h.of_eq rfl (by rw [found_showRefText hsha hlisted])⟩

/-- The lookup of `x` in a listing of one branch of another remote, named
    `refs/remotes/upstream/refs/heads/x`, resolves to `refs/heads/x`, which the
    listing does not hold. -/
theorem localRef_reads_inner_branch :
    let listing := [("1", "refs/remotes/upstream/refs/heads/x")]
    let s : Script := ⟨[(["show-ref", "x"], [.exited 0 (showRefText listing) ""])]⟩
    isSha "x" = false ∧ WellListed listing ∧
      s.answer [] (lookupArgs "x") = .exited 0 (showRefText listing) "" ∧
      ∃ L, Runs (localRef "x") s [] [lookupArgs "x"] (.ok (some "refs/heads/x")) L := by
  intro listing s
  have hsha : isSha "x" = false := by decide
  have hlisted : WellListed listing := by simp [listing, WellListed, isLineBreak, isLowerHex]
  have hreply : s.answer [] (lookupArgs "x") = .exited 0 (showRefText listing) "" := rfl
  obtain ⟨L, h⟩ := (localRef_resolves "x" s []).2 hsha listing 0 "" hlisted hreply
  refine ⟨hsha, hlisted, hreply, L, h.of_eq rfl ?_⟩
  cbv

/-! ## Listings of plain refs -/

/-- A ref in which no ref prefix starts after the first character. -/
def PlainRef (ref : String) : Prop :=
  ∀ t ∈ ref.toList.tail.tails, ∀ p ∈ refPrefixes, ¬ p.toList <+: t

instance : DecidablePred PlainRef := fun ref =>
  inferInstanceAs (Decidable (∀ t ∈ ref.toList.tail.tails, ∀ p ∈ refPrefixes, ¬ p.toList <+: t))

theorem refOfLine_go_eq_none {cs : List Char}
    (h : ∀ t ∈ cs.tails, ∀ p ∈ refPrefixes, ¬ p.toList <+: t) : refOfLine.go cs = none := by
  induction cs with
  | nil => rfl
  | cons c rest ih =>
    have hnone : refPrefixes.find? (fun p => p.toList.isPrefixOf (c :: rest)) = none := by
      rw [List.find?_eq_none]
      intro p hp hpre
      exact h (c :: rest) (by simp) p hp (List.isPrefixOf_iff_prefix.mp hpre)
    rw [refOfLine.go, hnone]
    exact ih (fun t ht => h t (by simp [ht]))

/-- A plain ref is read as itself. -/
theorem searchedRef_of_plain {ref : String} (h : PlainRef ref) : searchedRef ref = ref := by
  unfold searchedRef refOfLine
  unfold PlainRef at h
  cases hcs : ref.toList with
  | nil => simp [refOfLine.go]
  | cons c rest =>
    rw [hcs, List.tail_cons] at h
    rw [refOfLine.go]
    split
    · simp [← hcs]
    · simp [refOfLine_go_eq_none h]

/-- When no listed ref holds a ref prefix after its start, a name that is no
    SHA resolves among the listed refs themselves: to the branch of `origin`
    of that name when it is listed, else to the first listed branch or tag of
    that name, else to nothing. -/
theorem localRef_of_plain_listing {name : String} (hsha : isSha name = false)
    {listing : List (String × String)} (hlisted : WellListed listing)
    (hplain : ∀ e ∈ listing, PlainRef e.2) {s : Script} {cs : List (List String)} {code : Int}
    {err : String} (hreply : s.answer cs (lookupArgs name) = .exited code (showRefText listing) err) :
    ∃ L, Runs (localRef name) s cs [lookupArgs name] (.ok (pickRef name (listing.map (·.2)))) L := by
  obtain ⟨L, h⟩ := runs_localRef_exited hreply
  have hmap : (listing.map fun e => searchedRef e.2) = listing.map (·.2) :=
    List.map_congr_left fun e he => searchedRef_of_plain (hplain e he)
  exact ⟨L, h.of_eq rfl (by rw [found_showRefText hsha hlisted, hmap])⟩

/-- A listing of a branch and a branch of `origin` of `main`, both plain:
    the branch of `origin` is picked. -/
example :
    let listing := [("1", "refs/heads/main"), ("2", "refs/remotes/origin/main")]
    let s : Script := ⟨[(["show-ref", "main"], [.exited 0 (showRefText listing) ""])]⟩
    isSha "main" = false ∧ WellListed listing ∧ (∀ e ∈ listing, PlainRef e.2) ∧
      s.answer [] (lookupArgs "main") = .exited 0 (showRefText listing) "" ∧
      ∃ L, Runs (localRef "main") s [] [lookupArgs "main"]
        (.ok (some "refs/remotes/origin/main")) L := by
  intro listing s
  have hsha : isSha "main" = false := by decide
  have hlisted : WellListed listing := by simp [listing, WellListed, isLineBreak, isLowerHex]
  have hplain : ∀ e ∈ listing, PlainRef e.2 := by decide
  have hreply : s.answer [] (lookupArgs "main") = .exited 0 (showRefText listing) "" := rfl
  obtain ⟨L, h⟩ := localRef_of_plain_listing hsha hlisted hplain hreply
  refine ⟨hsha, hlisted, hplain, hreply, L, h.of_eq rfl ?_⟩
  cbv

end ChangeFilter.Git
