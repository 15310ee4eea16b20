import SqlFilter.Proofs.Sanitize.Stripped

/-!
# Which delimiters survive the sanitizer

The brackets of comments do not survive (`Sanitize.isFree_withoutBrackets`), nor do control
characters. Two dashes can: they are taken out before the brackets are, so brackets between two
dashes keep them apart while dashes are looked for, and then go.

`Sanitize.Rejoins` says when this happens. Look at the text after every run of dashes has been cut
down to one dash or none: two dashes come together if between them there are slashes and stars only,
as many of the one as of the other. `sanitize_dashes_iff` is the whole account.
-/

namespace SqlFilter

namespace Sanitize

/-- Two dashes have nothing between them but slashes and stars, as many of the one as of the
other. -/
def Rejoins (cs : List Char) : Prop :=
  ∃ before between after, cs = before ++ '-' :: between ++ '-' :: after ∧
    (∀ c ∈ between, c = '/' ∨ c = '*') ∧ between.count '/' = between.count '*'

/-! ### Removing the brackets -/

/-- Dashes stay, and what stands between them loses its brackets on its own. -/
theorem withoutBrackets_append_cons (cs ds : List Char) :
    withoutBrackets (cs ++ '-' :: ds) = withoutBrackets cs ++ '-' :: withoutBrackets ds := by
  rw [withoutBrackets, Delimiter.cancel_append_cons (by decide) (by decide),
    Delimiter.cancel_append_cons (by decide) (by decide)]
  rfl

/-- A dash that is left was a dash before. -/
theorem exists_of_withoutBrackets_eq_append_cons {cs before after : List Char}
    (h : withoutBrackets cs = before ++ '-' :: after) :
    ∃ ds es, cs = ds ++ '-' :: es ∧ withoutBrackets ds = before ∧ withoutBrackets es = after := by
  obtain ⟨ds, es, opened, rfl, rfl⟩ :=
    Delimiter.exists_of_cancel_eq_append_cons (by decide) (by decide) before after h
  obtain ⟨ds, es, rfl, rfl, rfl⟩ :=
    Delimiter.exists_of_cancel_eq_append_cons (by decide) (by decide) ds es opened
  exact ⟨ds, es, rfl, rfl, rfl⟩

/-- The balance of slashes and stars is kept. -/
theorem count_withoutBrackets (cs : List Char) :
    (withoutBrackets cs).count '/' + cs.count '*'
      = (withoutBrackets cs).count '*' + cs.count '/' := by
  -- every bracket that goes takes a slash and a star along
  have opened := Delimiter.count_cancel (d := opening) (by decide) cs
  have closed := Delimiter.count_cancel (d := closing) (by decide) (opening.cancel cs)
  simp only [opening, closing] at opened closed
  simp only [withoutBrackets, opening, closing]
  omega

/-- Slashes and stars free of both brackets are all slashes or all stars. -/
theorem isChain_eq_of_isFree {cs : List Char} (h : ∀ c ∈ cs, c = '/' ∨ c = '*')
    (hopening : opening.IsFree cs) (hclosing : closing.IsFree cs) : cs.IsChain (· = ·) := by
  rw [Delimiter.isFree_iff_isChain] at hopening hclosing
  induction cs with
  | nil => exact List.isChain_nil
  | cons a cs ih =>
    rw [List.isChain_cons] at hopening hclosing ⊢
    refine ⟨fun b hb => ?_, ih (fun c hc => h c (List.mem_cons_of_mem a hc)) hopening.2 hclosing.2⟩
    have opens := hopening.1 b hb
    have closes := hclosing.1 b hb
    -- two neighbours that differ spell a bracket, an opening or a closing one by their order
    rcases h a List.mem_cons_self with rfl | rfl <;>
      rcases h b (List.mem_cons_of_mem _ (List.mem_of_mem_head? hb)) with rfl | rfl
    · rfl
    · exact absurd ⟨rfl, rfl⟩ opens
    · exact absurd ⟨rfl, rfl⟩ closes
    · rfl

/-- **Nothing is left** of slashes and stars alone, as many of the one as of the other. -/
theorem withoutBrackets_eq_nil_iff (cs : List Char) :
    withoutBrackets cs = [] ↔ (∀ c ∈ cs, c = '/' ∨ c = '*') ∧ cs.count '/' = cs.count '*' := by
  have balance := count_withoutBrackets cs
  constructor
  · intro gone
    refine ⟨fun c hc => ?_, ?_⟩
    · by_contra other
      rw [not_or] at other
      -- a character that no bracket has is taken out by neither pass
      have kept : c ∈ withoutBrackets cs :=
        Delimiter.mem_cancel other.2 other.1 (Delimiter.mem_cancel other.1 other.2 hc)
      simp [gone] at kept
    · rw [gone] at balance
      simpa using balance.symm
  · rintro ⟨only, equal⟩
    have left : ∀ c ∈ withoutBrackets cs, c = '/' ∨ c = '*' :=
      fun c hc => only c ((sublist_withoutBrackets cs).subset hc)
    have free := isFree_withoutBrackets cs
    have one := isChain_eq_of_isFree left free.1 free.2
    have even : (withoutBrackets cs).count '/' = (withoutBrackets cs).count '*' := by omega
    generalize withoutBrackets cs = rest at left one even
    cases rest with
    | nil => rfl
    | cons a rest =>
      -- one character all along, so one of the two counts is zero and the other is not
      have same : a :: rest = List.replicate (rest.length + 1) a := by
        simpa [List.isChain_eq_iff_eq_replicate] using one
      rw [same, List.count_replicate, List.count_replicate] at even
      rcases left a List.mem_cons_self with rfl | rfl
      · simp at even
      · simp at even

/-! ### The account -/

/-- **Dashes survive** stripping where the brackets between two of them go. -/
theorem not_isFree_dashes_stripped_iff (cs : List Char) :
    ¬ dashes.IsFree (stripped cs) ↔ Rejoins (oddRuns '-' (printable cs)) := by
  rw [stripped_eq, show dashes.cancel (printable cs) = oddRuns '-' (printable cs) from
    Delimiter.cancel_eq_oddRuns '-' (printable cs), Delimiter.IsFree, not_not]
  generalize oddRuns '-' (printable cs) = text
  constructor
  · rintro ⟨before, after, whole⟩
    -- both dashes were in the text, and all that stood between them is gone
    have first : withoutBrackets text = before ++ '-' :: ('-' :: after) := by
      rw [← whole]
      simp [dashes, Delimiter.toList]
    obtain ⟨ds, es, rfl, -, rest⟩ := exists_of_withoutBrackets_eq_append_cons first
    have second : withoutBrackets es = [] ++ '-' :: after := rest
    obtain ⟨between, es, rfl, gone, -⟩ := exists_of_withoutBrackets_eq_append_cons second
    have shape := (withoutBrackets_eq_nil_iff between).mp gone
    exact ⟨ds, between, es, by simp, shape.1, shape.2⟩
  · rintro ⟨before, between, after, rfl, only, equal⟩
    have gone : withoutBrackets between = [] :=
      (withoutBrackets_eq_nil_iff between).mpr ⟨only, equal⟩
    have whole : withoutBrackets (before ++ '-' :: between ++ '-' :: after)
        = withoutBrackets before ++ '-' :: '-' :: withoutBrackets after := by
      rw [withoutBrackets_append_cons, withoutBrackets_append_cons, gone, List.append_assoc]
      rfl
    rw [whole]
    exact ⟨withoutBrackets before, withoutBrackets after, by simp [dashes, Delimiter.toList]⟩

end Sanitize

open Sanitize

/-- **What a sanitized text holds.** No control character, no bracket of a comment; and two dashes
next to each other exactly if they rejoin. -/
theorem sanitize_dashes_iff (text : String) :
    (∀ c ∈ (sanitize text).toList, 32 ≤ c.toNat)
      ∧ ¬ ['/', '*'] <:+: (sanitize text).toList
      ∧ ¬ ['*', '/'] <:+: (sanitize text).toList
      ∧ (['-', '-'] <:+: (sanitize text).toList
          ↔ Rejoins (oddRuns '-' (printable text.toList))) := by
  rw [toList_sanitize, chars]
  have free := isFree_withoutBrackets (dashes.cancel (printable text.toList))
  refine ⟨fun c hc => ?_, ?_, ?_, ?_⟩
  · have visible := not_isControl_of_mem_stripped (mem_doubleQuotes.mp hc)
    rw [isControl, decide_eq_false_iff_not, UInt32.lt_iff_toNat_lt] at visible
    exact Nat.le_of_not_lt visible
  · exact (isFree_doubleQuotes (d := opening) (by decide) _).mpr free.1
  · exact (isFree_doubleQuotes (d := closing) (by decide) _).mpr free.2
  · rw [← not_isFree_dashes_stripped_iff, ← isFree_doubleQuotes (d := dashes) (by decide),
      Delimiter.IsFree, not_not]
    rfl

/-- Two dashes around a pair of brackets. -/
theorem sanitize_dashes_around_brackets :
    sanitize "-/*-" = "--" ∧ ['-', '-'] <:+: (sanitize "-/*-").toList := by
  decide

end SqlFilter
