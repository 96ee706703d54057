import ChangeFilter.Run.Detect

/-! # Short and full ref names in the settings

`base` and `ref` may name a branch or tag bare (`main`) or in full
(`refs/heads/main`, `refs/tags/v1`): the change set is chosen from
`Git.shortName` of each, so both writings choose the same changes. The
equivalence needs the bare name to be a real short name: not empty (an empty
`ref` means the checked-out ref), not `HEAD` (which `detectChanges` reads
before shortening), and not itself under one of the two prefixes (only one
is stripped).

`default_branch` is not among them: `pushChanges` compares the shortened
`base` with the default branch as written, so a full default branch never
equals a shortened base. -/

namespace ChangeFilter

open Git

/-- A name as a branch or tag is written bare: not empty, not `HEAD`, and
    without a branch or tag prefix of its own. -/
structure ShortRef (x : String) : Prop where
  nonempty : x ≠ ""
  not_head : x ≠ Git.head
  not_branch : "refs/heads/".isPrefixOf x = false
  not_tag : "refs/tags/".isPrefixOf x = false

/-- `full` is the bare name `x` under the branch or tag prefix. -/
def FullRef (x full : String) : Prop :=
  ShortRef x ∧ ∃ p ∈ ["refs/heads/", "refs/tags/"], full = p ++ x

/-- Two writings of one ref: the same text, or a bare name and its full form
    in either order. -/
def SameRef (a b : String) : Prop :=
  a = b ∨ FullRef a b ∨ FullRef b a

/-! ## Shortening -/

theorem isPrefixOf_append (p x : String) : p.isPrefixOf (p ++ x) = true := by
  rw [String.isPrefixOf, String.startsWith_string_iff, String.toList_append]
  exact List.prefix_append _ _

theorem shortName_of_shortRef {x : String} (hx : ShortRef x) :
    shortName (some x) = some x := by
  simp [shortName, hx.nonempty, hx.not_branch, hx.not_tag]

/-- A full name shortens to its bare name. -/
theorem shortName_of_fullRef {x full : String} (h : FullRef x full) :
    shortName (some full) = some x := by
  obtain ⟨hx, p, hp, rfl⟩ := h
  have hne : p ++ x ≠ "" := by
    intro h
    exact hx.nonempty (String.append_eq_empty_iff.mp h).2
  have hdrop : String.ofList ((p ++ x).toList.drop p.length) = x := by
    rw [String.toList_append, ← String.length_toList, List.drop_left, String.ofList_toList]
  have hfind : ["refs/heads/", "refs/tags/"].find? (fun q => q.isPrefixOf (p ++ x)) = some p := by
    simp only [List.mem_cons, List.not_mem_nil, or_false] at hp
    rcases hp with rfl | rfl
    · simp [isPrefixOf_append]
    · have hhead : "refs/heads/".isPrefixOf ("refs/tags/" ++ x) = false := by
        rw [String.isPrefixOf, String.startsWith_string_eq_false_iff, String.toList_append]
        simp
      simp [hhead, isPrefixOf_append]
  rw [shortName.eq_3 _ hne, hfind]
  exact congrArg some hdrop

theorem FullRef.isEmpty {x full : String} (h : FullRef x full) :
    full.isEmpty = x.isEmpty := by
  obtain ⟨hx, p, -, rfl⟩ := h
  rw [Bool.eq_iff_iff, String.isEmpty_iff, String.isEmpty_iff]
  simp [hx.nonempty]

theorem FullRef.beq_head {x full : String} (h : FullRef x full) :
    (full == Git.head) = (x == Git.head) := by
  obtain ⟨hx, p, hp, rfl⟩ := h
  have hlen : (p ++ x).length ≠ Git.head.length := by
    simp only [List.mem_cons, List.not_mem_nil, or_false] at hp
    rcases hp with rfl | rfl <;> simp [Git.head, ← String.length_toList]
  have hne : p ++ x ≠ Git.head := fun h => hlen (congrArg String.length h)
  rw [beq_eq_false_iff_ne.mpr hne, beq_eq_false_iff_ne.mpr hx.not_head]

/-! ## What `detectChanges` reads of a ref -/

theorem SameRef.isEmpty {a b : String} (h : SameRef a b) : a.isEmpty = b.isEmpty := by
  rcases h with rfl | h | h
  · rfl
  · exact h.isEmpty.symm
  · exact h.isEmpty

theorem SameRef.beq_head {a b : String} (h : SameRef a b) :
    (a == Git.head) = (b == Git.head) := by
  rcases h with rfl | h | h
  · rfl
  · exact h.beq_head.symm
  · exact h.beq_head

theorem SameRef.shortName {a b : String} (h : SameRef a b) :
    Git.shortName (some a) = Git.shortName (some b) := by
  rcases h with rfl | h | h
  · rfl
  · rw [shortName_of_shortRef h.1, shortName_of_fullRef h]
  · rw [shortName_of_shortRef h.1, shortName_of_fullRef h]

/-! ## The change set -/

/-- A push's change set reads only the fetch depth of the settings. -/
theorem pushChanges_with_refs (s : Settings) (b r : String) :
    pushChanges { s with base := b, ref := r } = pushChanges s := rfl

theorem historyChanges_sameRef {s : Settings} {b r : String} (hb : SameRef s.base b)
    (hr : SameRef s.ref r) :
    historyChanges { s with base := b, ref := r } = historyChanges s := by
  -- the head and the base are read only through their short names
  have hhead : ∀ current, shortName (some (if s.ref.isEmpty then current else r)) =
      shortName (some (if s.ref.isEmpty then current else s.ref)) := by
    intro current
    split
    · rfl
    · exact hr.shortName.symm
  have hbase : ∀ d, shortName (if s.base.isEmpty then d else some b) =
      shortName (if s.base.isEmpty then d else some s.base) := by
    intro d
    split
    · rfl
    · exact hb.shortName.symm
  unfold historyChanges
  simp only [pushChanges_with_refs, ← hb.isEmpty, ← hr.isEmpty, hhead, hbase]

/-- Writing `base` or `ref` bare or in full chooses the same changes, with the
    same warnings and the same failures, when the default branch is kept. -/
theorem detectChanges_ref_spelling {s : Settings} {b r : String} (hb : SameRef s.base b)
    (hr : SameRef s.ref r) :
    detectChanges { s with base := b, ref := r } = detectChanges s := by
  unfold detectChanges
  rw [historyChanges_sameRef hb hr]
  simp only [← hb.beq_head, ← hb.isEmpty, ← hr.isEmpty]

theorem detectChanges_full_branch_and_tag :
    SameRef "refs/heads/main" "main" ∧ SameRef "refs/tags/v1" "v1" ∧
      detectChanges { Settings.ofFilters "src: src/**" with base := "main", ref := "v1" } =
        detectChanges
          { Settings.ofFilters "src: src/**" with base := "refs/heads/main", ref := "refs/tags/v1" } := by
  have short : ∀ x, x ∈ ["main", "v1"] → ShortRef x := by
    intro x hx
    simp only [List.mem_cons, List.not_mem_nil, or_false] at hx
    rcases hx with rfl | rfl <;>
      exact ⟨by simp, by simp [Git.head],
        by rw [String.isPrefixOf, String.startsWith_string_eq_false_iff]; simp,
        by rw [String.isPrefixOf, String.startsWith_string_eq_false_iff]; simp⟩
  have hb : SameRef "refs/heads/main" "main" :=
    Or.inr (Or.inr ⟨short "main" (by simp), "refs/heads/", by simp, by simp⟩)
  have hr : SameRef "refs/tags/v1" "v1" :=
    Or.inr (Or.inr ⟨short "v1" (by simp), "refs/tags/", by simp, by simp⟩)
  exact ⟨hb, hr, @detectChanges_ref_spelling
    { Settings.ofFilters "src: src/**" with base := "refs/heads/main", ref := "refs/tags/v1" }
    "main" "v1" hb hr⟩

end ChangeFilter
