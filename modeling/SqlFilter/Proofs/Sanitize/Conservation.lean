import SqlFilter.Proofs.Sanitize.Residue

/-!
# What the sanitizer keeps

The sanitizer takes out control characters, dashes, slashes and stars, and no others
(`Sanitize.filter_stripped`). Dashes go in pairs, and a slash goes with a star, so the parity of the
dashes is kept, and so is the balance of slashes and stars. A text from which nothing has to go is
kept as a whole (`Sanitize.stripped_eq_self_iff`).

The doubling of quotes can be undone: a doubled text can be cut into two doubled texts wherever the
cut does not fall between two quotes (`Sanitize.exists_of_doubleQuotes_eq_append`), so all its runs
of quotes are even.
-/

namespace SqlFilter

namespace Delimiter

/-- A text is kept as it is exactly if it is free of the delimiter. -/
theorem cancel_eq_self_iff {d : Delimiter} {cs : List Char} : d.cancel cs = cs ↔ d.IsFree cs := by
  constructor
  · intro same
    rw [← same]
    exact d.isFree_cancel cs
  · exact cancel_of_isFree

end Delimiter

namespace Sanitize

/-! ### Stripping -/

/-- The characters that the sanitizer never takes out. -/
def isOrdinary (c : Char) : Bool := !isControl c && !(['-', '/', '*'].contains c)

theorem count_printable {c : Char} (h : isControl c = false) (cs : List Char) :
    (printable cs).count c = cs.count c :=
  List.count_filter (by simp [h])

/-- **Ordinary characters stay**, in their order. -/
theorem filter_stripped (cs : List Char) :
    (stripped cs).filter isOrdinary = cs.filter isOrdinary := by
  have visible : ∀ c ∈ cs, (isOrdinary c && !isControl c) = isOrdinary c := by
    intro c _
    unfold isOrdinary
    cases isControl c <;> simp
  -- none of the delimiters is spelled with an ordinary character
  rw [stripped_eq, withoutBrackets, Delimiter.filter_cancel (by decide) (by decide),
    Delimiter.filter_cancel (by decide) (by decide),
    Delimiter.filter_cancel (by decide) (by decide), printable, List.filter_filter]
  exact List.filter_congr visible

/-- **Dashes go in pairs.** -/
theorem count_dash_stripped (cs : List Char) :
    (stripped cs).count '-' % 2 = cs.count '-' % 2 := by
  rw [stripped_eq, withoutBrackets, Delimiter.count_cancel_of_ne (by decide) (by decide),
    Delimiter.count_cancel_of_ne (by decide) (by decide), dashes, Delimiter.count_cancel_mod_two,
    count_printable (by decide)]

/-- **A slash goes with a star.** -/
theorem count_slash_stripped (cs : List Char) :
    (stripped cs).count '/' + cs.count '*' = (stripped cs).count '*' + cs.count '/' := by
  have balance := count_withoutBrackets (dashes.cancel (printable cs))
  rwa [Delimiter.count_cancel_of_ne (by decide) (by decide),
    Delimiter.count_cancel_of_ne (by decide) (by decide), count_printable (by decide),
    count_printable (by decide)] at balance

/-- **Nothing is taken out** of a text exactly if there is nothing in it that has to go. -/
theorem stripped_eq_self_iff (cs : List Char) :
    stripped cs = cs ↔ (∀ c ∈ cs, isControl c = false)
      ∧ dashes.IsFree cs ∧ opening.IsFree cs ∧ closing.IsFree cs := by
  constructor
  · intro same
    -- each pass takes out a part, so if all of them keep the text, each one does
    have controls := List.filter_sublist (p := fun c => !isControl c) (l := cs)
    have pairs := dashes.sublist_cancel (printable cs)
    have brackets := sublist_withoutBrackets (dashes.cancel (printable cs))
    rw [← stripped_eq, same] at brackets
    have noDashes : dashes.cancel (printable cs) = cs :=
      (brackets.antisymm (pairs.trans controls)).symm
    rw [noDashes] at pairs
    have noControls : printable cs = cs := controls.antisymm pairs
    have free := isFree_withoutBrackets (dashes.cancel (printable cs))
    rw [← stripped_eq, same] at free
    rw [noControls] at noDashes
    refine ⟨fun c hc => ?_, Delimiter.cancel_eq_self_iff.mp noDashes, free⟩
    simpa using List.filter_eq_self.mp noControls c hc
  · rintro ⟨visible, noDashes, noOpening, noClosing⟩
    exact stripped_of_isFree visible noDashes noOpening noClosing

/-! ### Runs of quotes -/

/-- Every maximal run of a character is of even length. -/
def EvenRuns (c : Char) (cs : List Char) : Prop :=
  ∀ before n after, cs = before ++ List.replicate n c ++ after →
    c ∉ before.getLast? → c ∉ after.head? → 2 ∣ n

theorem doubleQuotes_injective : Function.Injective doubleQuotes :=
  Function.LeftInverse.injective undoubleQuotes_doubleQuotes

theorem doubleQuotes_cons_quote (cs : List Char) :
    doubleQuotes (quote :: cs) = quote :: quote :: doubleQuotes cs := rfl

theorem count_doubleQuotes (cs : List Char) :
    (doubleQuotes cs).count quote = 2 * cs.count quote := by
  induction cs with
  | nil => rfl
  | cons c cs ih =>
    by_cases isQuote : c = quote
    · rw [isQuote, doubleQuotes_cons_quote, List.count_cons_self, List.count_cons_self,
        List.count_cons_self, ih]
      omega
    · rw [doubleQuotes_cons_of_ne isQuote, List.count_cons_of_ne isQuote,
        List.count_cons_of_ne isQuote, ih]

/-- **Where a doubled text can be cut**: everywhere but between two quotes. -/
theorem exists_of_doubleQuotes_eq_append {cs before after : List Char}
    (h : doubleQuotes cs = before ++ after)
    (cut : quote ∉ before.getLast? ∨ quote ∉ after.head?) :
    ∃ ds es, doubleQuotes ds = before ∧ doubleQuotes es = after := by
  induction cs generalizing before with
  | nil =>
    obtain ⟨rfl, rfl⟩ := List.append_eq_nil_iff.mp h.symm
    exact ⟨[], [], rfl, rfl⟩
  | cons c cs ih =>
    -- the cut stays where it is when a character is taken off in front
    have later : ∀ {x : Char} {before : List Char},
        quote ∉ (x :: before).getLast? ∨ quote ∉ after.head? →
        quote ∉ before.getLast? ∨ quote ∉ after.head? := by
      intro x before cut
      cases before with
      | nil => exact .inl (by simp)
      | cons y before => simpa using cut
    cases before with
    | nil => exact ⟨[], c :: cs, rfl, h⟩
    | cons b before =>
      by_cases isQuote : c = quote
      · rw [isQuote, doubleQuotes_cons_quote, List.cons_append, List.cons.injEq] at h
        obtain ⟨rfl, h⟩ := h
        cases before with
        | nil =>
          -- here the cut would fall between the two quotes
          rw [List.nil_append] at h
          simp [← h] at cut
        | cons b before =>
          rw [List.cons_append, List.cons.injEq] at h
          obtain ⟨rfl, h⟩ := h
          obtain ⟨ds, es, rfl, behind⟩ := ih h (later (later cut))
          exact ⟨quote :: ds, es, doubleQuotes_cons_quote ds, behind⟩
      · rw [doubleQuotes_cons_of_ne isQuote, List.cons_append, List.cons.injEq] at h
        obtain ⟨rfl, h⟩ := h
        obtain ⟨ds, es, rfl, behind⟩ := ih h (later cut)
        exact ⟨c :: ds, es, doubleQuotes_cons_of_ne isQuote ds, behind⟩

/-- **Doubled quotes stand in even runs.** -/
theorem evenRuns_doubleQuotes (cs : List Char) : EvenRuns quote (doubleQuotes cs) := by
  intro before n after whole left right
  -- cut behind the run and then in front of it; what is between the cuts is doubled
  obtain ⟨ds, -, front, -⟩ := exists_of_doubleQuotes_eq_append whole (.inr right)
  obtain ⟨-, es, -, run⟩ := exists_of_doubleQuotes_eq_append front (.inl left)
  have count := count_doubleQuotes es
  rw [run, List.count_replicate_self] at count
  exact ⟨es.count quote, count⟩

end Sanitize

open Sanitize

/-- **What a sanitized text keeps of the text.** Its quotes stand in even runs. Written once again,
what is left is a part of the text that holds all ordinary characters in their order, as many dashes
as there were up to an even number, and as many slashes more than stars as there were. Nothing is
lost and only the quotes are doubled exactly if the text has no control character and no delimiter
of a comment. -/
theorem sanitize_conserves (text : String) :
    EvenRuns quote (sanitize text).toList
      ∧ (let kept := undoubleQuotes (sanitize text).toList
        kept.Sublist text.toList
          ∧ kept.filter isOrdinary = text.toList.filter isOrdinary
          ∧ kept.count '-' % 2 = text.toList.count '-' % 2
          ∧ (kept.count '/' : Int) - kept.count '*' = text.toList.count '/' - text.toList.count '*')
      ∧ ((sanitize text).toList = doubleQuotes text.toList
          ↔ (∀ c ∈ text.toList, 32 ≤ c.toNat) ∧ ¬ ['-', '-'] <:+: text.toList
            ∧ ¬ ['/', '*'] <:+: text.toList ∧ ¬ ['*', '/'] <:+: text.toList) := by
  rw [toList_sanitize, chars]
  generalize text.toList = cs
  refine ⟨evenRuns_doubleQuotes _, ?_, ?_⟩
  · rw [undoubleQuotes_doubleQuotes]
    have balance := count_slash_stripped cs
    exact ⟨(sublist_stripped cs).trans List.filter_sublist, filter_stripped cs,
      count_dash_stripped cs, by omega⟩
  · have visible : (∀ c ∈ cs, isControl c = false) ↔ ∀ c ∈ cs, 32 ≤ c.toNat := by
      simp only [isControl, decide_eq_false_iff_not, UInt32.lt_iff_toNat_lt, Nat.not_lt]
      rfl
    rw [doubleQuotes_injective.eq_iff, stripped_eq_self_iff, visible]
    rfl

end SqlFilter
