import SqlFilter.Proofs.Sql.Writing

/-!
# Balanced parentheses

Pieces are **balanced** (`Sql.IsBalanced`) if they close as many parentheses as they open, and none
before it is opened. Parentheses in literals do not count, since a literal is a single piece. What
is balanced can be put together, and into one pair of parentheses more.

With that pair around it, what is balanced makes a group (`Sql.IsBalanced.isGroup`). A group is a
matter of the text, which can be cut anywhere; so it has to be said what the pieces of a cut text
have to do with those of the whole. They are pieces of the whole, but for a last literal that ends
where the text has been cut, between two quotes (`Sql.pieces?_part`).
-/

namespace SqlFilter

namespace Sql

/-! ### Balanced pieces -/

/-- Every parenthesis is closed, and none is closed before it is opened. -/
structure IsBalanced (ps : List Piece) : Prop where
  /-- No beginning closes more parentheses than it opens. -/
  beginning : ∀ qs, qs <+: ps → qs.count (.code ')') ≤ qs.count (.code '(')
  /-- All in all, as many are opened as are closed. -/
  even : ps.count (.code '(') = ps.count (.code ')')

/-- Pieces without parentheses are balanced. -/
theorem isBalanced_of_notMem {ps : List Piece} (noOpening : .code '(' ∉ ps)
    (noClosing : .code ')' ∉ ps) : IsBalanced ps where
  beginning := by
    intro qs begins
    have none : qs.count (.code ')') = 0 :=
      List.count_eq_zero.mpr fun mem => noClosing (begins.subset mem)
    omega
  even := by rw [List.count_eq_zero.mpr noOpening, List.count_eq_zero.mpr noClosing]

theorem IsBalanced.nil : IsBalanced [] := isBalanced_of_notMem (by simp) (by simp)

theorem isBalanced_literal (content : List Char) : IsBalanced [.literal content] :=
  isBalanced_of_notMem (by simp) (by simp)

theorem isBalanced_codes {cs : List Char} (noOpening : '(' ∉ cs) (noClosing : ')' ∉ cs) :
    IsBalanced (codes cs) :=
  isBalanced_of_notMem (by simpa [codes] using noOpening) (by simpa [codes] using noClosing)

theorem IsBalanced.append {ps qs : List Piece} (hp : IsBalanced ps) (hq : IsBalanced qs) :
    IsBalanced (ps ++ qs) where
  beginning := by
    rintro begun ⟨rest, whole⟩
    -- what is begun ends within the first part or within the second
    rcases List.append_eq_append_iff.mp whole with ⟨left, inFirst, -⟩ | ⟨left, rfl, inSecond⟩
    · exact hp.beginning begun ⟨left, inFirst.symm⟩
    · have first := hp.even
      have second := hq.beginning left ⟨rest, inSecond.symm⟩
      rw [List.count_append, List.count_append]
      omega
  even := by rw [List.count_append, List.count_append, hp.even, hq.even]

/-- Behind one more parenthesis, whatever is begun leaves a parenthesis open. -/
theorem IsBalanced.beginning_lt {ps begun : List Piece} (h : IsBalanced ps)
    (begins : begun <+: .code '(' :: ps) (nonempty : begun ≠ []) :
    begun.count (.code ')') < begun.count (.code '(') := by
  cases begun with
  | nil => exact absurd rfl nonempty
  | cons p begun =>
    obtain ⟨rfl, within⟩ := List.cons_prefix_cons.mp begins
    have inside := h.beginning begun within
    rw [List.count_cons_self, List.count_cons_of_ne (by decide)]
    omega

/-- Pieces in a pair of parentheses. -/
def inParens (ps : List Piece) : List Piece := .code '(' :: ps ++ [.code ')']

theorem count_inParens (ps : List Piece) :
    (inParens ps).count (.code '(') = ps.count (.code '(') + 1 ∧
    (inParens ps).count (.code ')') = ps.count (.code ')') + 1 := by
  simp [inParens]

/-- What is balanced stays so in parentheses. -/
theorem IsBalanced.inParens {ps : List Piece} (h : IsBalanced ps) : IsBalanced (inParens ps) where
  beginning := by
    intro begun begins
    -- the closing parenthesis belongs to nothing that is begun but the whole
    rcases List.prefix_concat_iff.mp begins with whole | before
    · have counts := count_inParens ps
      have even := h.even
      rw [show begun = Sql.inParens ps from whole]
      omega
    · by_cases nonempty : begun = []
      · simp [nonempty]
      · exact Nat.le_of_lt (h.beginning_lt before nonempty)
  even := by rw [(count_inParens ps).1, (count_inParens ps).2, h.even]

/-! ### Parts of a text -/

/-- What has been read stays. -/
theorem Reading.pieces_prefix_run (r : Reading) (cs : List Char) :
    r.pieces <+: (r.run cs).pieces := by
  have later := Reading.run_append_pieces r.pieces [] r.place cs
  rw [List.append_nil] at later
  exact ⟨_, (congrArg Reading.pieces later).symm⟩

/-- At the end of the text at most a literal is added. -/
theorem Reading.finish?_cases {r : Reading} {ps : List Piece} (h : r.finish? = some ps) :
    ps = r.pieces ∨ ∃ content, ps = r.pieces ++ [.literal content] := by
  obtain ⟨pieces, place⟩ := r
  cases place with
  | outside =>
    obtain rfl : pieces = ps := by simpa [finish?] using h
    exact .inl rfl
  | inside content => simp [finish?] at h
  | closing content =>
    obtain rfl : pieces ++ [.literal content] = ps := by simpa [finish?] using h
    exact .inr ⟨content, rfl⟩

/-- **The pieces of a part** are pieces that the whole begins with, and perhaps a literal that ends
with the part. They are all of the pieces only if the part is all of the text. -/
theorem pieces?_part {part rest : List Char} {ps qs : List Piece}
    (whole : pieces? (part ++ rest) = some ps) (read : pieces? part = some qs) :
    ∃ begun, begun <+: ps ∧ (begun = ps → rest = []) ∧
      (qs = begun ∨ ∃ content, qs = begun ++ [.literal content]) := by
  have writtenPart : write qs = part := write_of_pieces? read
  have writtenWhole : write ps = part ++ rest := write_of_pieces? whole
  have last := Reading.finish?_cases read
  rw [pieces?, Reading.run_append] at whole
  refine ⟨(Reading.start.run part).pieces, ?_, ?_, last⟩
  · have later := Reading.pieces_prefix_run (Reading.start.run part) rest
    rcases Reading.finish?_cases whole with rfl | ⟨content, rfl⟩
    · exact later
    · exact later.trans (List.prefix_append _ _)
  · intro all
    -- if the pieces begun are all there are, the part is written no shorter than the whole
    rw [all] at last
    have shorter : (write ps).length ≤ (write qs).length := by
      rcases last with rfl | ⟨content, rfl⟩
      · exact Nat.le_refl _
      · rw [write_append, List.length_append]
        exact Nat.le_add_right _ _
    rw [writtenPart, writtenWhole, List.length_append] at shorter
    exact List.eq_nil_of_length_eq_zero (by omega)

/-! ### Groups -/

/-- **What is balanced makes a group** when it is put in parentheses. -/
theorem IsBalanced.isGroup {ps : List Piece} (h : IsBalanced ps)
    (back : pieces? (write (Sql.inParens ps)) = some (Sql.inParens ps)) :
    IsGroup (write (Sql.inParens ps)) where
  opened := rfl
  balanced := ⟨_, back, h.inParens.even⟩
  unfinished := by
    intro part rest partNonempty restNonempty cut pieces read
    rw [← cut] at back
    obtain ⟨begun, begins, notAll, last⟩ := pieces?_part back read
    have written : write pieces = part := write_of_pieces? read
    -- the text begins with a parenthesis and not with a literal, so that something is begun
    have nonempty : begun ≠ [] := by
      rintro rfl
      obtain ⟨c, cs, rfl⟩ := List.exists_cons_of_ne_nil partNonempty
      obtain rfl : c = '(' := (List.cons.inj cut).1
      rcases last with rfl | ⟨content, rfl⟩
      · cases written
      · exact absurd (List.cons.inj written).1 (by decide)
    -- the parenthesis at the end is not among the pieces of a part
    have unfinished : begun <+: .code '(' :: ps := by
      rcases List.prefix_concat_iff.mp begins with all | before
      · exact absurd (notAll all) restNonempty
      · exact before
    have count := h.beginning_lt unfinished nonempty
    rcases last with rfl | ⟨content, rfl⟩
    · exact count
    · simpa [List.count_append] using count

end Sql

end SqlFilter
