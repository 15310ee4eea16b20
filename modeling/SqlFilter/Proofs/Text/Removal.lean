import SqlFilter.Proofs.Text.Cancel
import SqlFilter.Sanitize

/-!
# Removal in any order ends in the same text

Occurrences of a delimiter may be taken out one at a time in any order. Every removal makes the text
shorter, so this comes to an end (`Delimiter.wellFounded_removes`), and what is left in the end does
not depend on the order (`Delimiter.strip_unique_normal_form`).

The sanitizer reads a text once for each delimiter. By the same token it could as well have searched
for the leftmost occurrence over and over again (`Sanitize.stripped_eq_foldl_strip`).
-/

namespace SqlFilter

namespace Delimiter

/-- **Removal ends**: there is no infinite series of removals. -/
theorem wellFounded_removes (d : Delimiter) :
    WellFounded fun after before => d.Removes before after := by
  refine Subrelation.wf ?_ (measure List.length).wf
  intro after before removal
  show after.length < before.length
  have shorter := removal.length
  omega

/-- **Removal has one outcome.** For every delimiter it comes to an end, and in whatever order
occurrences are taken out until none is left, the text left is that of the loop which takes out the
leftmost one each time. That text is free of the delimiter, and a single pass with a stack gives it
as well. If the delimiter is one character twice, it is the text with every run of that character
cut down to one or none, as its length is odd or even. -/
theorem strip_unique_normal_form (cs : List Char) :
    (∀ d : Delimiter,
      WellFounded (fun after before => d.Removes before after)
        ∧ (∀ ds, d.RemovesAll cs ds ↔ ds = d.strip cs)
        ∧ d.IsFree (d.strip cs)
        ∧ d.strip cs = d.cancel cs)
      ∧ ∀ c, (⟨c, c⟩ : Delimiter).strip cs = oddRuns c cs := by
  refine ⟨fun d => ⟨wellFounded_removes d, fun ds => ⟨fun h => ?_, ?_⟩, ?_, strip_eq_cancel d cs⟩,
    fun c => ?_⟩
  · rw [strip_eq_cancel]
    exact h.eq_cancel
  · rintro rfl
    exact removesAll_strip d cs
  · rw [strip_eq_cancel]
    exact isFree_cancel d cs
  · rw [strip_eq_cancel]
    exact cancel_eq_oddRuns c cs

-- three dashes overlap, and one opening bracket stands in another
example : (⟨'-', '-'⟩ : Delimiter).strip "a---b".toList = "a-b".toList
    ∧ (⟨'/', '*'⟩ : Delimiter).strip "x//**y".toList = "xy".toList := by
  cbv

end Delimiter

/-- **The sanitizer removes each delimiter to its fixed point**, one delimiter after another. -/
theorem Sanitize.stripped_eq_foldl_strip (cs : List Char) :
    stripped cs
      = delimiters.foldl (fun text d => d.strip text) (cs.filter fun c => !isControl c) := by
  simp only [stripped, Delimiter.strip_eq_cancel]

end SqlFilter
