import SqlFilter.Proofs.Sanitize.Stripped
import SqlFilter.Proofs.Text.Digits

/-!
# Clean text

A text is **clean** if it holds no control character and no bracket of a comment. What the sanitizer
has stripped is clean. But a statement is put together from many parts, and two clean parts next to
each other need not be: the last character of the one and the first of the other may spell a
bracket.

Between the parts of a statement there is always a **barrier**, a character that no bracket has.
Clean parts stay clean around a barrier (`isClean_append_cons`), and a part that ends with one can
be followed by any other clean part; `StaysClean` says this of a part, and is kept when parts are
put one behind the other.
-/

namespace SqlFilter

namespace Delimiter

/-- A character that the delimiter does not have keeps its two sides apart. -/
theorem isFree_append_cons {d : Delimiter} {c : Char} (h₁ : c ≠ d.first) (h₂ : c ≠ d.second)
    {cs ds : List Char} : d.IsFree (cs ++ c :: ds) ↔ d.IsFree cs ∧ d.IsFree ds := by
  -- nothing next to such a character is an occurrence
  have before : ∀ x, d.Apart x c := fun x meets => h₂ meets.2
  have behind : ∀ x, d.Apart c x := fun x meets => h₁ meets.1
  rw [isFree_iff_isChain, isFree_iff_isChain, isFree_iff_isChain, List.isChain_append,
    List.isChain_cons]
  constructor
  · rintro ⟨left, ⟨-, right⟩, -⟩
    exact ⟨left, right⟩
  · rintro ⟨left, right⟩
    refine ⟨left, ⟨fun x _ => behind x, right⟩, ?_⟩
    intro x _ y hy
    obtain rfl : c = y := by simpa using hy
    exact before x

instance (d : Delimiter) : DecidableRel d.Apart := fun a b =>
  inferInstanceAs (Decidable (¬ (a = d.first ∧ b = d.second)))

instance (d : Delimiter) (cs : List Char) : Decidable (d.IsFree cs) :=
  decidable_of_iff (cs.IsChain d.Apart) isFree_iff_isChain.symm

end Delimiter

namespace Sanitize

/-- No control character and no bracket of a comment. -/
structure IsClean (cs : List Char) : Prop where
  visible : ∀ c ∈ cs, isControl c = false
  noOpening : opening.IsFree cs
  noClosing : closing.IsFree cs

instance (cs : List Char) : Decidable (IsClean cs) :=
  decidable_of_iff (cs.all (fun c => !isControl c) ∧ opening.IsFree cs ∧ closing.IsFree cs)
    ⟨fun h => ⟨by simpa using h.1, h.2.1, h.2.2⟩, fun h => ⟨by simpa using h.1, h.2, h.3⟩⟩

/-- A visible character that no bracket has. -/
structure IsBarrier (c : Char) : Prop where
  visible : isControl c = false
  ne_slash : c ≠ '/'
  ne_star : c ≠ '*'

instance (c : Char) : Decidable (IsBarrier c) :=
  decidable_of_iff (isControl c = false ∧ c ≠ '/' ∧ c ≠ '*')
    ⟨fun h => ⟨h.1, h.2.1, h.2.2⟩, fun h => ⟨h.1, h.2, h.3⟩⟩

/-! ### Clean parts -/

theorem isClean_nil : IsClean [] := by decide

/-- **Around a barrier** the whole is clean if both sides are. -/
theorem isClean_append_cons {c : Char} (h : IsBarrier c) {cs ds : List Char} :
    IsClean (cs ++ c :: ds) ↔ IsClean cs ∧ IsClean ds := by
  -- control characters are a matter of each side by itself, so it is the brackets that count
  have opens : opening.IsFree (cs ++ c :: ds) ↔ opening.IsFree cs ∧ opening.IsFree ds :=
    Delimiter.isFree_append_cons h.ne_slash h.ne_star
  have closes : closing.IsFree (cs ++ c :: ds) ↔ closing.IsFree cs ∧ closing.IsFree ds :=
    Delimiter.isFree_append_cons h.ne_star h.ne_slash
  constructor
  · rintro ⟨visible, noOpening, noClosing⟩
    rw [opens] at noOpening
    rw [closes] at noClosing
    refine ⟨⟨fun x hx => visible x ?_, noOpening.1, noClosing.1⟩,
      ⟨fun x hx => visible x ?_, noOpening.2, noClosing.2⟩⟩
    · exact List.mem_append_left _ hx
    · exact List.mem_append_right _ (List.mem_cons_of_mem c hx)
  · rintro ⟨left, right⟩
    refine ⟨fun x hx => ?_, opens.mpr ⟨left.noOpening, right.noOpening⟩,
      closes.mpr ⟨left.noClosing, right.noClosing⟩⟩
    rcases List.mem_append.mp hx with hx | hx
    · exact left.visible x hx
    · rcases List.mem_cons.mp hx with rfl | hx
      · exact h.visible
      · exact right.visible x hx

theorem isClean_cons {c : Char} (h : IsBarrier c) {cs : List Char} :
    IsClean (c :: cs) ↔ IsClean cs := by
  have around : IsClean ([] ++ c :: cs) ↔ IsClean [] ∧ IsClean cs := isClean_append_cons h
  rw [List.nil_append] at around
  rw [around]
  exact and_iff_right isClean_nil

theorem isClean_concat {c : Char} (h : IsBarrier c) {cs : List Char} :
    IsClean (cs ++ [c]) ↔ IsClean cs := by
  rw [isClean_append_cons h]
  exact and_iff_left isClean_nil

/-- **What the sanitizer has stripped is clean.** -/
theorem isClean_stripped (cs : List Char) : IsClean (stripped cs) where
  visible := fun _ hc => not_isControl_of_mem_stripped hc
  noOpening := (isFree_withoutBrackets _).1
  noClosing := (isFree_withoutBrackets _).2

/-- Doubled quotes are no brackets. -/
theorem IsClean.doubleQuotes {cs : List Char} (h : IsClean cs) : IsClean (doubleQuotes cs) where
  visible := fun c hc => h.visible c (mem_doubleQuotes.mp hc)
  noOpening := (isFree_doubleQuotes (by decide) cs).mpr h.noOpening
  noClosing := (isFree_doubleQuotes (by decide) cs).mpr h.noClosing

theorem isClean_chars (cs : List Char) : IsClean (chars cs) := (isClean_stripped cs).doubleQuotes

/-- Digits spell nothing. -/
theorem isClean_of_isDigit {cs : List Char} (h : ∀ c ∈ cs, c.isDigit) : IsClean cs := by
  induction cs with
  | nil => exact isClean_nil
  | cons c cs ih =>
    have digit : c.isDigit := h c List.mem_cons_self
    -- a digit is neither below the blank nor one of the two characters of a bracket
    have bounds : 48 ≤ c.val ∧ c.val ≤ 57 := by simpa [Char.isDigit] using digit
    have notMark := Digits.ne_of_isDigit digit
    have barrier : IsBarrier c := ⟨decide_eq_false (by grind), notMark '/' rfl, notMark '*' rfl⟩
    exact (isClean_cons barrier).mpr (ih fun x hx => h x (List.mem_cons_of_mem c hx))

/-! ### Parts that anything may follow -/

/-- Whatever clean text follows, the whole is clean. -/
def StaysClean (cs : List Char) : Prop := ∀ after, IsClean after → IsClean (cs ++ after)

theorem StaysClean.isClean {cs : List Char} (h : StaysClean cs) : IsClean cs := by
  have alone := h [] isClean_nil
  rwa [List.append_nil] at alone

theorem StaysClean.nil : StaysClean [] := fun _ h => h

theorem StaysClean.append {cs ds : List Char} (hcs : StaysClean cs) (hds : StaysClean ds) :
    StaysClean (cs ++ ds) := by
  intro after h
  rw [List.append_assoc]
  exact hcs _ (hds after h)

/-- **A barrier at the end** lets anything follow. -/
theorem staysClean_concat {cs : List Char} (h : IsClean cs) {c : Char} (hc : IsBarrier c) :
    StaysClean (cs ++ [c]) := by
  -- the barrier belongs to neither side, whatever follows
  intro after hafter
  rw [List.append_assoc]
  exact (isClean_append_cons hc).mpr ⟨h, hafter⟩

theorem StaysClean.cons {c : Char} (hc : IsBarrier c) {cs : List Char} (h : StaysClean cs) :
    StaysClean (c :: cs) :=
  fun after hafter => (isClean_cons hc).mpr (h after hafter)

theorem staysClean_of_barriers {cs : List Char} (h : cs.all fun c => decide (IsBarrier c)) :
    StaysClean cs := by
  induction cs with
  | nil => exact .nil
  | cons c cs ih =>
    rw [List.all_cons, Bool.and_eq_true, decide_eq_true_iff] at h
    exact .cons h.1 (ih h.2)

end Sanitize

end SqlFilter
