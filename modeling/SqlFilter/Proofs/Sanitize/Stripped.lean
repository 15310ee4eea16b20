import SqlFilter.Proofs.Text.Cancel
import SqlFilter.Sanitize

/-!
# Stripped text and doubled quotes

The sanitizer works in two stages: `Sanitize.stripped` takes characters out, and
`Sanitize.doubleQuotes` writes every quote twice. Of the first stage this module says which
characters and delimiters it leaves, of the second that it disturbs neither.

The passes of the first stage are named here. The control characters go first, then the dashes, then
the two brackets of a comment; the closing bracket is the opening one read backwards, which is why
the last pass cannot undo the one before it.
-/

namespace SqlFilter

namespace Sanitize

/-! ### The passes -/

/-- The two dashes that open a comment up to the end of its line. -/
def dashes : Delimiter := ⟨'-', '-'⟩

/-- The opening bracket of a comment. -/
def opening : Delimiter := ⟨'/', '*'⟩

/-- The closing bracket of a comment. -/
def closing : Delimiter := ⟨'*', '/'⟩

/-- The text without control characters. -/
def printable (cs : List Char) : List Char := cs.filter fun c => !isControl c

/-- The text without the brackets of comments. -/
def withoutBrackets (cs : List Char) : List Char := closing.cancel (opening.cancel cs)

theorem stripped_eq (cs : List Char) :
    stripped cs = withoutBrackets (dashes.cancel (printable cs)) := rfl

theorem sublist_withoutBrackets (cs : List Char) : (withoutBrackets cs).Sublist cs :=
  (closing.sublist_cancel _).trans (opening.sublist_cancel cs)

/-! ### What is left after stripping -/

theorem sublist_stripped (cs : List Char) : (stripped cs).Sublist (printable cs) :=
  (sublist_withoutBrackets _).trans (dashes.sublist_cancel _)

/-- No control character is left. -/
theorem not_isControl_of_mem_stripped {cs : List Char} {c : Char} (h : c ∈ stripped cs) :
    isControl c = false := by
  -- the later passes only take out, so what is left has passed the first
  have kept := List.mem_filter.mp ((sublist_stripped cs).subset h)
  simpa using kept.2

/-- Stripping adds no character. -/
theorem mem_of_mem_stripped {cs : List Char} {c : Char} (h : c ∈ stripped cs) : c ∈ cs :=
  (List.mem_filter.mp ((sublist_stripped cs).subset h)).1

/-- **No bracket of a comment is left**: the closing ones go last, and they cannot bring an opening
one back. -/
theorem isFree_withoutBrackets (cs : List Char) :
    opening.IsFree (withoutBrackets cs) ∧ closing.IsFree (withoutBrackets cs) :=
  ⟨Delimiter.isFree_cancel_swap (opening.isFree_cancel cs), closing.isFree_cancel _⟩

/-- **Clean text stays as it is.** -/
theorem stripped_of_isFree {cs : List Char} (hcontrol : ∀ c ∈ cs, isControl c = false)
    (hdashes : dashes.IsFree cs) (hopening : opening.IsFree cs) (hclosing : closing.IsFree cs) :
    stripped cs = cs := by
  -- each pass finds nothing to take out
  have all : printable cs = cs := List.filter_eq_self.mpr fun c hc => by simp [hcontrol c hc]
  rw [stripped_eq, all, withoutBrackets, Delimiter.cancel_of_isFree hdashes,
    Delimiter.cancel_of_isFree hopening, Delimiter.cancel_of_isFree hclosing]

/-! ### Doubled quotes -/

theorem mem_doubleQuotes {cs : List Char} {c : Char} : c ∈ doubleQuotes cs ↔ c ∈ cs := by
  induction cs with
  | nil => simp
  | cons a cs ih =>
    rw [doubleQuotes_cons]
    split
    · next isQuote => simp [ih, isQuote]
    · simp [ih]

theorem doubleQuotes_cons_of_ne {c : Char} (h : c ≠ quote) (cs : List Char) :
    doubleQuotes (c :: cs) = c :: doubleQuotes cs := by
  rw [doubleQuotes_cons, if_neg h]
  rfl

/-- Text without quotes stays as it is. -/
theorem doubleQuotes_of_notMem {cs : List Char} (h : quote ∉ cs) : doubleQuotes cs = cs := by
  induction cs with
  | nil => rfl
  | cons a cs ih =>
    rw [List.mem_cons, not_or] at h
    rw [doubleQuotes_cons_of_ne (Ne.symm h.1), ih h.2]

theorem head?_doubleQuotes (cs : List Char) : (doubleQuotes cs).head? = cs.head? := by
  cases cs with
  | nil => rfl
  | cons a cs =>
    rw [doubleQuotes_cons]
    split
    · next isQuote => simp [isQuote]
    · simp

/-- A delimiter that no quote opens occurs in the doubled text where it occurred before. -/
theorem isFree_doubleQuotes {d : Delimiter} (h : d.first ≠ quote) (cs : List Char) :
    d.IsFree (doubleQuotes cs) ↔ d.IsFree cs := by
  rw [Delimiter.isFree_iff_isChain, Delimiter.isFree_iff_isChain]
  induction cs with
  | nil => rfl
  | cons a cs ih =>
    -- a new quote stands behind a quote, where no occurrence begins
    have fromQuote : ∀ b, d.Apart quote b := fun b meets => h meets.1.symm
    rw [doubleQuotes_cons]
    split
    · next isQuote =>
      subst isQuote
      simp [List.isChain_cons, ih, fromQuote]
    · simp [List.isChain_cons, ih, head?_doubleQuotes]

/-- A quote with no other behind it does not begin a doubled text. -/
theorem cons_quote_ne_doubleQuotes_append {rest : List Char} (h : rest.head? ≠ some quote)
    (c : Char) (cs ds : List Char) : quote :: rest ≠ doubleQuotes (c :: cs) ++ ds := by
  intro same
  rw [doubleQuotes_cons] at same
  -- the doubled text begins with two quotes, or with another character
  split at same
  · exact h (by rw [(List.cons.inj same).2]; rfl)
  · next notQuote => exact notQuote (List.cons.inj same).1.symm

/-- **Where doubled text ends** is told by the first quote that is not doubled. -/
theorem doubleQuotes_append_inj {cs ds rest rest' : List Char} (hrest : rest.head? ≠ some quote)
    (hrest' : rest'.head? ≠ some quote)
    (h : doubleQuotes cs ++ quote :: rest = doubleQuotes ds ++ quote :: rest') :
    cs = ds ∧ rest = rest' := by
  induction cs generalizing ds with
  | nil =>
    cases ds with
    | nil => exact ⟨rfl, (List.cons.inj h).2⟩
    | cons d ds => exact absurd h (cons_quote_ne_doubleQuotes_append hrest d ds _)
  | cons c cs ih =>
    cases ds with
    | nil => exact absurd h.symm (cons_quote_ne_doubleQuotes_append hrest' c cs _)
    | cons d ds =>
      -- doubled or not, both texts begin with their first character
      obtain rfl : c = d := by simpa [head?_doubleQuotes] using congrArg List.head? h
      rw [doubleQuotes_cons, doubleQuotes_cons, List.append_assoc, List.append_assoc] at h
      obtain ⟨rfl, behind⟩ := ih (List.append_cancel_left h)
      exact ⟨rfl, behind⟩

end Sanitize

end SqlFilter
