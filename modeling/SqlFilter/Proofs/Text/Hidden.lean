import Mathlib.Data.List.Chain
import SqlFilter.Text.Hidden

/-!
# Nothing is hidden in a message

A class of characters is given by ranges in their order, and the search stops at the first range
that begins above the number. Since the ranges are in order it finds exactly their members
(`inRanges_iff`), which is said of the two tables by `isBlank_iff` and `isHidden_iff`.

A text quoted in a message shows every one of its characters, if only by number
(`Quoted.isHidden_of_mem_encode`).
-/

namespace SqlFilter

/-! ### Ranges -/

/-- **The search finds the members of the ranges** and nothing else, if each range begins above the
one before. -/
theorem inRanges_iff {n : Nat} {ranges : List (Nat × Nat)}
    (ordered : (ranges.map Prod.fst).Pairwise (· < ·)) :
    inRanges n ranges ↔ ∃ r ∈ ranges, r.1 ≤ n ∧ n ≤ r.2 := by
  induction ranges with
  | nil => simp [inRanges]
  | cons r ranges ih =>
    obtain ⟨above, others⟩ := List.pairwise_cons.mp ordered
    rw [List.exists_mem_cons_iff, ← ih others, inRanges, Bool.and_eq_true, Bool.or_eq_true,
      decide_eq_true_iff, decide_eq_true_iff]
    constructor
    · rintro ⟨begun, within | later⟩
      · exact .inl ⟨begun, within⟩
      · exact .inr later
    · rintro (⟨begun, within⟩ | later)
      · exact ⟨begun, .inl within⟩
      · -- a later range has begun, so this one has as well
        obtain ⟨s, mem, begun, -⟩ := (ih others).mp later
        have first : r.1 < s.1 := above s.1 (List.mem_map_of_mem mem)
        exact ⟨by omega, .inr later⟩

/-- Ranges that begin one above the other do so throughout. -/
theorem inRanges_iff_of_isChain {n : Nat} {ranges : List (Nat × Nat)}
    (ordered : (ranges.map Prod.fst).IsChain (· < ·)) :
    inRanges n ranges ↔ ∃ r ∈ ranges, r.1 ≤ n ∧ n ≤ r.2 :=
  inRanges_iff (List.isChain_iff_pairwise.mp ordered)

theorem isBlank_iff (c : Char) :
    isBlank c ↔ ∃ r ∈ blankRanges, r.1 ≤ c.toNat ∧ c.toNat ≤ r.2 :=
  inRanges_iff_of_isChain (by decide)

theorem isHidden_iff (c : Char) :
    isHidden c ↔ ∃ r ∈ hiddenRanges, r.1 ≤ c.toNat ∧ c.toNat ≤ r.2 :=
  inRanges_iff_of_isChain (by decide +kernel)

/-! ### Quoted texts -/

/-- The digits of a number of a character are seen. -/
theorem isHidden_of_mem_toDigits {n : Nat} {c : Char} (h : c ∈ Nat.toDigits 16 n) :
    isHidden c = false := by
  have digit : ∀ d, d < 16 → isHidden d.digitChar = false := by decide +kernel
  induction n using Nat.strongRecOn with
  | ind n ih =>
    rcases Nat.lt_or_ge n 16 with single | more
    · rw [Nat.toDigits_of_lt_base single, List.mem_singleton] at h
      rw [h]
      exact digit n single
    · rw [Nat.toDigits_of_base_le (by decide) more, List.mem_append, List.mem_singleton] at h
      rcases h with front | rfl
      · exact ih (n / 16) (by omega) front
      · exact digit (n % 16) (Nat.mod_lt n (by decide))

namespace Quoted

/-- The marks of the escapes, which are all seen. -/
def marks : List Char := ['\\', '"', 't', 'n', 'r', '0', 'u', '\x7b', '\x7d']

theorem isHidden_of_mem_marks {mark : Char} (h : mark ∈ marks) : isHidden mark = false := by
  have seen : marks.all (fun mark => !isHidden mark) = true := by decide +kernel
  simpa using List.all_eq_true.mp seen mark h

theorem isHidden_of_subset_marks {cs : List Char} (known : cs ⊆ marks) {x : Char} (h : x ∈ cs) :
    isHidden x = false :=
  isHidden_of_mem_marks (known h)

theorem isHidden_of_mem_encodeChar {c x : Char} (h : x ∈ encodeChar c) : isHidden x = false := by
  unfold encodeChar at h
  split at h
  · next escaped =>
    -- a quote and a backslash are seen themselves
    rcases Bool.or_eq_true_iff.mp escaped with quote | backslash
    · rw [of_decide_eq_true quote] at h
      exact isHidden_of_subset_marks (by decide) h
    · rw [of_decide_eq_true backslash] at h
      exact isHidden_of_subset_marks (by decide) h
  iterate 4
    split at h
    · exact isHidden_of_subset_marks (by decide) h
  split at h
  · -- the number of the character, between its marks
    rw [List.mem_append] at h
    rcases h with number | closing
    · rw [List.mem_cons, List.mem_cons, List.mem_cons] at number
      rcases number with rfl | rfl | rfl | digit
      · exact isHidden_of_mem_marks (by decide)
      · exact isHidden_of_mem_marks (by decide)
      · exact isHidden_of_mem_marks (by decide)
      · exact isHidden_of_mem_toDigits digit
    · exact isHidden_of_subset_marks (by decide) closing
  · next seen =>
    rw [List.mem_singleton.mp h]
    exact eq_false_of_ne_true seen

/-- **Nothing is hidden in quotes.** -/
theorem isHidden_of_mem_encode {cs : List Char} {x : Char} (h : x ∈ encode cs) :
    isHidden x = false := by
  have quote : isHidden '"' = false := isHidden_of_mem_marks (by decide)
  rw [encode, List.cons_append, List.mem_cons, List.mem_append, List.mem_flatMap] at h
  rcases h with rfl | ⟨c, -, inside⟩ | closing
  · exact quote
  · exact isHidden_of_mem_encodeChar inside
  · rw [List.mem_singleton.mp closing]
    exact quote

end Quoted

end SqlFilter
