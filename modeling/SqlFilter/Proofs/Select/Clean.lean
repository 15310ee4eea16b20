import SqlFilter.Proofs.Clause.Clean
import SqlFilter.Proofs.Select.Pieces

/-!
# Nothing leaks out of a statement

Each name and each value is sanitized on its own, and the statement is put together afterwards. What
has been said of the parts holds of the whole all the same (`Select.text_isContained`): no control
character, no bracket of a comment, neither outside of literals nor within, and no literal left
open. Two dashes are not among the things excluded, since the sanitizer itself can bring them
together.

The proof adds one part after the other to a **tidy** list of pieces, which is one that is read back
and clean. Between two parts stands a character that neither a bracket nor a quote can use
(`IsTidy.append_cons`), mostly a blank. A keyword such as `count(*)` holds a star of its own; it is
looked at as a whole.
-/

namespace SqlFilter

open Sanitize (quote IsBarrier IsClean)
open Sql (Piece codes write pieces?)

namespace Sql

/-- What a text must hold to, so that nothing in it reaches beyond its place. -/
structure IsContained (cs : List Char) : Prop where
  /-- No character lies below the blank. -/
  visible : ∀ c ∈ cs, 32 ≤ c.toNat
  /-- No comment is opened, -/
  noOpening : ¬ ['/', '*'] <:+: cs
  /-- and none is closed. -/
  noClosing : ¬ ['*', '/'] <:+: cs
  /-- A reader is outside of literals at the end. -/
  ended : ∃ ps, pieces? cs = some ps

/-- The pieces are read back, and the text is clean. -/
structure IsTidy (ps : List Piece) : Prop where
  readBack : pieces? (write ps) = some ps
  clean : IsClean (write ps)

theorem IsTidy.isContained {ps : List Piece} (h : IsTidy ps) : IsContained (write ps) where
  visible := by
    intro c hc
    -- a control character is one below the blank
    have visible := h.clean.visible c hc
    rw [Sanitize.isControl, decide_eq_false_iff_not, UInt32.lt_iff_toNat_lt] at visible
    exact Nat.le_of_not_lt visible
  noOpening := h.clean.noOpening
  noClosing := h.clean.noClosing
  ended := ⟨ps, h.readBack⟩

/-! ### Adding a part -/

/-- **Parts are kept apart** by a character that neither a bracket nor a quote can use. -/
theorem IsTidy.append_cons {ps qs : List Piece} {c : Char} (hp : IsTidy ps) (hq : IsTidy qs)
    (barrier : IsBarrier c) (notQuote : c ≠ quote) : IsTidy (ps ++ .code c :: qs) := by
  constructor
  · -- a reader is outside of literals behind the character, and reads on from there
    have first := readsBack_concat hp.readBack notQuote
    have whole := first.pieces?_append hq.readBack
    simpa using whole
  · have whole := (Sanitize.isClean_append_cons barrier).mpr ⟨hp.clean, hq.clean⟩
    simpa [Piece.write] using whole

theorem IsTidy.nil : IsTidy [] := ⟨rfl, Sanitize.isClean_nil⟩

/-- A blank in front. -/
theorem IsTidy.cons_blank {ps : List Piece} (h : IsTidy ps) : IsTidy (.code ' ' :: ps) :=
  IsTidy.nil.append_cons h (by decide) (by decide)

theorem isTidy_codes {cs : List Char} (clean : IsClean cs) (noQuote : quote ∉ cs) :
    IsTidy (codes cs) := by
  constructor
  · rw [write_codes]
    exact pieces?_of_notMem noQuote
  · rwa [write_codes]

theorem isTidy_namePieces (name : String) : IsTidy (Clause.namePieces name) :=
  ⟨Clause.pieces?_namePieces name, Clause.isClean_namePieces name⟩

theorem isTidy_expression (e : Expression) : IsTidy e.pieces :=
  ⟨e.readsBack_pieces.pieces?, e.staysClean_pieces.isClean⟩

/-- A part that is missing, or begins with a blank. -/
inductive IsPart : List Piece → Prop where
  | missing : IsPart []
  | there {ps : List Piece} : IsTidy ps → IsPart (.code ' ' :: ps)

theorem IsTidy.append_part {ps qs : List Piece} (hp : IsTidy ps) (hq : IsPart qs) :
    IsTidy (ps ++ qs) := by
  cases hq with
  | missing => rwa [List.append_nil]
  | there hq => exact hp.append_cons hq (by decide) (by decide)

end Sql

namespace Select

open Sql (IsTidy IsPart IsContained isTidy_codes isTidy_namePieces)

/-! ### The parts of a statement -/

theorem isTidy_columnPieces (columns : List String) : IsTidy (columnPieces columns) := by
  cases columns with
  | nil => exact isTidy_codes (by decide) (by decide)
  | cons name names =>
    induction names generalizing name with
    | nil => exact isTidy_namePieces name
    | cons next names ih =>
      -- the comma keeps the columns apart, and the blank goes with the next one
      have rest := (ih next).cons_blank
      have whole := (isTidy_namePieces name).append_cons rest (c := ',') (by decide) (by decide)
      simpa [columnPieces, codes] using whole

theorem isPart_filterPieces (filter : Option Expression) : IsPart (filterPieces filter) := by
  cases filter with
  | none => exact .missing
  | some e =>
    have keyword : IsTidy (codes "WHERE".toList) := isTidy_codes (by decide) (by decide)
    have part := IsPart.there (keyword.append_part (.there (Sql.isTidy_expression e)))
    simpa [filterPieces, codes] using part

theorem isPart_orderPieces (order : Option (String × SortOrder)) : IsPart (orderPieces order) := by
  cases order with
  | none => exact .missing
  | some order =>
    obtain ⟨column, direction⟩ := order
    have keyword : IsTidy (codes "ORDER BY".toList) := isTidy_codes (by decide) (by decide)
    -- the direction is a keyword of its own, behind a blank
    have last : IsTidy (codes direction.keyword.toList) := by
      cases direction <;> exact isTidy_codes (by decide) (by decide)
    have named := keyword.append_part (.there (isTidy_namePieces column))
    have part := IsPart.there (named.append_part (.there last))
    simpa [orderPieces, codes] using part

theorem isTidy_digits (n : Nat) : IsTidy (codes (Nat.toDigits 10 n)) := by
  have digits : ∀ c ∈ Nat.toDigits 10 n, c.isDigit :=
    fun c hc => Nat.isDigit_of_mem_toDigits (by decide) (by decide) hc
  refine isTidy_codes (Sanitize.isClean_of_isDigit digits) ?_
  intro hquote
  exact absurd (digits quote hquote) (by decide)

/-- The keyword of a part that counts rows stands between two blanks. -/
theorem isPart_countPieces {keyword : String} {word : List Char} (tidy : IsTidy (codes word))
    (h : keyword.toList = ' ' :: word ++ [' ']) (rows : Option Nat) :
    IsPart (countPieces keyword rows) := by
  cases rows with
  | none => exact .missing
  | some rows =>
    have part := IsPart.there (tidy.append_part (.there (isTidy_digits rows)))
    simpa [countPieces, h, codes] using part

/-! ### The whole statement -/

theorem isTidy_pieces (s : Select) : IsTidy s.pieces := by
  -- up to the table every part is there, and what may be missing is put behind it
  have select : IsTidy (codes "SELECT".toList) := isTidy_codes (by decide) (by decide)
  have source : IsTidy (codes "FROM".toList) := isTidy_codes (by decide) (by decide)
  have table := source.append_part (.there (isTidy_namePieces s.table))
  have front := (select.append_part (.there (isTidy_columnPieces s.columns))).append_part
    (.there table)
  have limitWord : IsTidy (codes "LIMIT".toList) := isTidy_codes (by decide) (by decide)
  have offsetWord : IsTidy (codes "OFFSET".toList) := isTidy_codes (by decide) (by decide)
  have limit : IsPart (countPieces " LIMIT " s.limit) :=
    isPart_countPieces limitWord (by decide) s.limit
  have offset : IsPart (countPieces " OFFSET " s.offset) :=
    isPart_countPieces offsetWord (by decide) s.offset
  have all := (((front.append_part (isPart_filterPieces s.filter)).append_part
    (isPart_orderPieces s.orderBy)).append_part limit).append_part offset
  simpa [pieces, codes] using all

theorem isTidy_countSqlPieces (table : String) (filter : Option Expression) :
    IsTidy (countSqlPieces table filter) := by
  -- the star of `count(*)` stands between parentheses
  have counting : IsTidy (codes "SELECT count(*) FROM".toList) :=
    isTidy_codes (by decide) (by decide)
  have front := counting.append_part (.there (isTidy_namePieces table))
  have all := front.append_part (isPart_filterPieces filter)
  simpa [countSqlPieces, codes] using all

/-- **Nothing leaks out of a statement**, whatever its table, columns, filter and limits are: its
text holds no control character and no bracket of a comment, and leaves no literal open. -/
theorem text_isContained :
    (∀ (limit : Nat) (s : Select) (text : String), s.toSql limit = .ok text →
      IsContained text.toList)
    ∧ ∀ (table : String) (filter : Option Expression) (text : String),
      countSql table filter = .ok text → IsContained text.toList := by
  constructor
  · intro limit s text h
    rw [toSql_ok h]
    exact (isTidy_pieces s).isContained
  · intro table filter text h
    rw [countSql_ok h]
    exact (isTidy_countSqlPieces table filter).isContained

/-- A slash in front of a star, with a blank between them, and quotes that are not closed. -/
theorem text_isContained_of_broken_names :
    let filter := Expression.eq "*/*" (.text "it's")
    let s : Select := ⟨"t'/", ["*", "a/"], some filter, some ("*", .descending), some 1, none⟩
    s.toSql 1 = .ok "SELECT *, a/ FROM t''/ WHERE (* = 'it''s') ORDER BY * DESC LIMIT 1"
      ∧ IsContained
        "SELECT *, a/ FROM t''/ WHERE (* = 'it''s') ORDER BY * DESC LIMIT 1".toList
      ∧ countSql "t'/" (some filter) = .ok "SELECT count(*) FROM t''/ WHERE (* = 'it''s')"
      ∧ IsContained "SELECT count(*) FROM t''/ WHERE (* = 'it''s')".toList := by
  intro filter s
  have text : s.toSql 1
      = .ok "SELECT *, a/ FROM t''/ WHERE (* = 'it''s') ORDER BY * DESC LIMIT 1" := by decide
  have counted : countSql "t'/" (some filter)
      = .ok "SELECT count(*) FROM t''/ WHERE (* = 'it''s')" := by decide
  exact ⟨text, text_isContained.1 1 s _ text, counted,
    text_isContained.2 "t'/" (some filter) _ counted⟩

end Select

end SqlFilter
