import SqlFilter.Proofs.Clause.Pieces
import SqlFilter.Select.History

/-!
# Telling the parts of a clause

Where two lists of pieces are equal, what they begin with is equal too, provided that it can be
told where it ends. This module has such a statement for every part of a clause that nests no
expression.

* A plain name ends before the first character that is not a `Clause.IsNameChar`
  (`Clause.name_append_inj`).
* No keyword begins another one (`Clause.keyword_append_inj`).
* A literal is a single piece; a list of values ends at the first parenthesis behind a literal
  (`Clause.listPieces_append_inj`), and a pattern has a fixed form
  (`Clause.patternPieces_append_inj`).

They are the leaves of the proof that clauses are uniquely readable.
-/

namespace SqlFilter

open Sanitize (quote)
open Sql (Piece codes)

theorem Sql.prefix_of_prefix_codes {cs ds : List Char} (h : codes cs <+: codes ds) : cs <+: ds := by
  obtain ⟨rest, whole⟩ := h
  exact ⟨write rest, by rw [← write_codes cs, ← write_append, whole, write_codes]⟩

/-! ### Names -/

namespace Clause

/-- A character of plain names. -/
def IsNameChar (c : Char) : Prop := c.isAlphanum ∨ c = '_' ∨ c = '.'

instance (c : Char) : Decidable (IsNameChar c) :=
  inferInstanceAs (Decidable (c.isAlphanum ∨ c = '_' ∨ c = '.'))

/-- Control characters are no name characters; there are only few of them. -/
theorem IsNameChar.not_isControl {c : Char} (h : IsNameChar c) : Sanitize.isControl c = false := by
  refine decide_eq_false fun control => ?_
  -- all control characters can be tried out
  have few : ∀ n : Fin 32, ¬ IsNameChar (Char.ofNat n.val) := by decide
  have noName := few ⟨c.toNat, control⟩
  rw [Char.ofNat_toNat] at noName
  exact noName h

end Clause

open Clause

instance (name : String) : Decidable (IsPlainName name) :=
  decidable_of_iff (name ≠ "" ∧ name.toList.all fun c => decide (IsNameChar c))
    (by simp only [List.all_eq_true, decide_eq_true_eq]; rfl)

namespace IsPlainName

variable {name : String}

/-- What is no name character does not occur in a plain name. -/
theorem notMem (h : IsPlainName name) {c : Char} (hc : ¬ IsNameChar c) : c ∉ name.toList :=
  fun mem => hc (h.2 c mem)

/-- A plain name passes through the sanitizer. -/
theorem stripped_eq (h : IsPlainName name) : Sanitize.stripped name.toList = name.toList := by
  have noDash : '-' ∉ name.toList := h.notMem (by decide)
  have noStar : '*' ∉ name.toList := h.notMem (by decide)
  exact Sanitize.stripped_of_isFree (fun c mem => (show IsNameChar c from h.2 c mem).not_isControl)
    (Delimiter.isFree_of_first_notMem noDash) (Delimiter.isFree_of_second_notMem noStar)
    (Delimiter.isFree_of_first_notMem noStar)

theorem namePieces_eq (h : IsPlainName name) : namePieces name = codes name.toList := by
  rw [namePieces_of_notMem (h.notMem (by decide)), h.stripped_eq]

/-- A plain name has a first character. -/
theorem exists_cons (h : IsPlainName name) :
    ∃ c cs, name.toList = c :: cs ∧ IsNameChar c := by
  cases whole : name.toList with
  | nil => exact absurd (String.toList_inj.mp (whole.trans String.toList_empty.symm)) h.1
  | cons c cs => exact ⟨c, cs, rfl, h.2 c (by rw [whole]; exact List.mem_cons_self)⟩

/-- Pieces that begin with what is no name character do not begin with a name. -/
theorem ne_cons_code (h : IsPlainName name) {c : Char} (hc : ¬ IsNameChar c)
    (ps qs : List Piece) : namePieces name ++ ps ≠ .code c :: qs := by
  -- a plain name is not empty, so its first character would have to be the one given
  obtain ⟨first, cs, whole, isName⟩ := h.exists_cons
  rw [h.namePieces_eq, whole]
  intro begins
  obtain rfl : first = c := by simpa [codes] using (List.cons.inj begins).1
  exact hc isName

end IsPlainName

namespace Clause

/-- Two runs of name characters that stand before other characters. -/
theorem run_append_inj {cs ds : List Char} (hcs : ∀ c ∈ cs, IsNameChar c)
    (hds : ∀ d ∈ ds, IsNameChar d) {a b : Char} (ha : ¬ IsNameChar a) (hb : ¬ IsNameChar b)
    {ps qs : List Piece} (h : codes cs ++ .code a :: ps = codes ds ++ .code b :: qs) :
    cs = ds ∧ a = b ∧ ps = qs := by
  -- the shorter run would be followed by a name character, which is excluded
  induction cs generalizing ds with
  | nil =>
    cases ds with
    | nil => simpa [codes] using h
    | cons d ds =>
      obtain ⟨rfl, -⟩ : a = d ∧ _ := by simpa [codes] using h
      exact absurd (hds a List.mem_cons_self) ha
  | cons c cs ih =>
    cases ds with
    | nil =>
      obtain ⟨rfl, -⟩ : c = b ∧ _ := by simpa [codes] using h
      exact absurd (hcs c List.mem_cons_self) hb
    | cons d ds =>
      obtain ⟨rfl, rest⟩ : c = d ∧ codes cs ++ .code a :: ps = codes ds ++ .code b :: qs := by
        simpa [codes] using h
      obtain ⟨rfl, equal⟩ := ih (fun c mem => hcs c (List.mem_cons_of_mem _ mem))
        (fun d mem => hds d (List.mem_cons_of_mem _ mem)) rest
      exact ⟨rfl, equal⟩

/-- **Where a plain name ends** is told by the character behind it. -/
theorem name_append_inj {name name' : String} (hname : IsPlainName name)
    (hname' : IsPlainName name') {a b : Char} (ha : ¬ IsNameChar a) (hb : ¬ IsNameChar b)
    {ps qs : List Piece}
    (h : namePieces name ++ .code a :: ps = namePieces name' ++ .code b :: qs) :
    name = name' ∧ a = b ∧ ps = qs := by
  rw [hname.namePieces_eq, hname'.namePieces_eq] at h
  obtain ⟨same, rest⟩ := run_append_inj hname.2 hname'.2 ha hb h
  exact ⟨String.toList_inj.mp same, rest⟩

/-! ### Keywords -/

/-- No keyword begins another one. -/
theorem eq_of_prefix_keyword {op op' : Operator} (h : op.keyword.toList <+: op'.keyword.toList) :
    op = op' := by
  -- all pairs of operators can be compared
  revert h
  cases op <;> cases op' <;> decide

/-- **Where a keyword ends** is told by the keyword. -/
theorem keyword_append_inj {op op' : Operator} {ps qs : List Piece}
    (h : codes op.keyword.toList ++ ps = codes op'.keyword.toList ++ qs) : op = op' ∧ ps = qs := by
  -- both keywords begin the same text, so one of them begins the other
  have begins : codes op.keyword.toList <+: codes op'.keyword.toList
      ∨ codes op'.keyword.toList <+: codes op.keyword.toList :=
    List.prefix_or_prefix_of_prefix (List.prefix_append _ ps) (h ▸ List.prefix_append _ qs)
  have same : op = op' := by
    rcases begins with first | second
    · exact eq_of_prefix_keyword (Sql.prefix_of_prefix_codes first)
    · exact (eq_of_prefix_keyword (Sql.prefix_of_prefix_codes second)).symm
  subst same
  exact ⟨rfl, List.append_cancel_left h⟩

/-! ### Lists and patterns -/

/-- **Where a list of values ends** is told by its parenthesis, for behind an opening parenthesis or
a comma stands a literal. -/
theorem listPieces_append_inj {items items' : List Scalar} {ps qs : List Piece}
    (h : listPieces items ++ ps = listPieces items' ++ qs) :
    items.map Scalar.written = items'.map Scalar.written ∧ ps = qs := by
  simp only [listPieces, List.append_assoc, List.cons_append, List.cons.injEq, true_and] at h
  induction items generalizing items' with
  -- if one list ends where the other goes on, a parenthesis meets a comma or a literal
  | nil =>
    cases items' with
    | nil => simpa using h
    | cons w items' => cases items' <;> simp at h
  | cons v items ih =>
    cases items' with
    | nil => cases items <;> simp at h
    | cons w items' =>
      cases items with
      | nil =>
        cases items' with
        | nil => simpa using h
        | cons => simp at h
      -- both lists go on behind their first values, as the lists of the other values do
      | cons v' items =>
        cases items' with
        | nil => simp at h
        | cons w' items' =>
          obtain ⟨same, rest⟩ : v.written = w.written ∧ _ := by simpa using h
          obtain ⟨others, behind⟩ := @ih (w' :: items') (by simpa using rest)
          exact ⟨by rw [List.map_cons, same, others, ← List.map_cons], behind⟩

theorem testPieces_append (keyword name : String) (pattern : List Char) (ps : List Piece) :
    testPieces keyword name pattern ++ ps
      = namePieces name ++
        .code ' ' :: (codes keyword.toList ++ .code ' ' :: .literal pattern :: ps) := by
  simp [testPieces, codes]

/-- **Where a pattern ends** is told by its first test, which the others repeat. -/
theorem patternPieces_append_inj {op op' : Operator} {name name' : String}
    (hname : IsPlainName name) (hname' : IsPlainName name') {text text' : List Char}
    {ps qs : List Piece}
    (h : patternPieces op.keyword name text ++ ps = patternPieces op'.keyword name' text' ++ qs) :
    op = op' ∧ name = name' ∧ text = text' ∧ ps = qs := by
  -- kept for the end, where all that is known to be equal is cancelled at once
  have whole := h
  simp only [patternPieces, List.append_assoc, List.cons_append, testPieces_append,
    List.cons.injEq, true_and] at h
  have blank : ¬ IsNameChar ' ' := by decide
  obtain ⟨rfl, -, h⟩ := name_append_inj hname hname' blank blank h
  obtain ⟨rfl, h⟩ := keyword_append_inj h
  obtain ⟨rfl, -⟩ : text = text' ∧ _ := by simpa using h
  exact ⟨rfl, rfl, rfl, List.append_cancel_left whole⟩

end Clause

end SqlFilter
