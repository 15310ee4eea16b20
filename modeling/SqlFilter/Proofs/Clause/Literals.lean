import SqlFilter.Proofs.Clause.Pieces

/-!
# Scalars stay in their literals

Whatever a scalar contains, a reader of the clause finds it inside one literal and nowhere else. Two
statements say so, and `Expression.scalars_stay_in_literals` is both of them.

* **One clause.** The literals that a reader finds are those that `Expression.literals` lists. Here
  the columns must contain no quote, since a name is not written as a literal.
* **Two clauses.** Expressions that are `Alike` are refused for the same reason, or both have a
  clause, and the clauses differ at most within literals. Here the columns may be anything.

Both are told by recursion on the expression, the first with `Sql.contents` and the second with
`Sql.Piece.masked` put on every list of pieces. That errors agree is a matter of its own: an error
names the kinds of what was found, never a value (`Expression.verdict_mapScalars`).
-/

namespace SqlFilter

open Sanitize (quote)
open Sql (Piece codes contents pieces?)

/-! ### The literals among the pieces -/

namespace Clause

theorem contents_namePieces {name : String} (h : quote ∉ name.toList) :
    contents (namePieces name) = [] := by
  rw [namePieces_of_notMem h, Sql.contents_codes]

theorem contents_listPieces (items : List Scalar) :
    contents (listPieces items) = items.map Scalar.written := by
  -- the commas are code, so they add no literal
  have inner : contents ((items.map fun v => Piece.literal v.written).intersperse (.code ','))
      = items.map Scalar.written := by
    induction items with
    | nil => rfl
    | cons v items ih =>
      cases items with
      | nil => rfl
      | cons w items => exact congrArg (v.written :: ·) ih
  rw [listPieces, List.cons_append, Sql.contents_code, Sql.contents_append, inner]
  simp

theorem contents_patternPieces {name : String} (h : quote ∉ name.toList) (keyword : String)
    (text : List Char) :
    contents (patternPieces keyword name text)
      = [text ++ ['%'], '%' :: text ++ ['%'], '%' :: text] := by
  have test : ∀ pattern, contents (testPieces keyword name pattern) = [pattern] := by
    intro pattern
    simp only [testPieces, Sql.contents_append, contents_namePieces h, Sql.contents_codes]
    rfl
  simp [patternPieces, test]

end Clause

open Clause

mutual

/-- **The literals of a writable expression's pieces**, if no column contains a quote. -/
theorem Expression.contents_pieces {e : Expression} (writable : e.isWritable)
    (h : ∀ name ∈ e.columns, quote ∉ name.toList) : contents e.pieces = e.literals := by
  cases e with
  | unary left op =>
    -- the keyword behind it is code
    have fits := (Expression.isWritable_unary.mp writable).1
    have hleft := Term.contents_leftPieces fits h
    simp [Expression.pieces, Expression.literals, hleft]
  | binary left op right =>
    obtain ⟨fitsLeft, fitsRight⟩ := Expression.isWritable_binary.mp writable
    have columnsLeft : ∀ name ∈ left.columns, quote ∉ name.toList :=
      fun name mem => h name (List.mem_append_left _ mem)
    have columnsRight : ∀ name ∈ right.columns, quote ∉ name.toList :=
      fun name mem => h name (List.mem_append_right _ mem)
    have hleft := Term.contents_leftPieces fitsLeft columnsLeft
    have hright := Term.contents_rightPieces fitsLeft fitsRight columnsLeft columnsRight
    simp [Expression.pieces, Expression.literals, hleft, hright]

/-- The literals of a left side. -/
theorem Term.contents_leftPieces {op : Operator} {t : Term} (fits : t.fitsLeft op)
    (h : ∀ name ∈ t.columns, quote ∉ name.toList) :
    contents (t.leftPieces op) = t.literalsLeft := by
  cases t with
  | column name =>
    have noQuote : quote ∉ name.toList := h name List.mem_cons_self
    rw [Term.leftPieces, Term.literalsLeft]
    · -- the column is written here, or left to the right side; in both cases it adds no literal
      cases op.family <;> simp [contents_namePieces noQuote]
    · simp
  | nested inner =>
    rw [Term.fitsLeft, Bool.and_eq_true] at fits
    have hinner := Expression.contents_pieces fits.2 h
    simp [Term.leftPieces, Term.literalsLeft, hinner]
  | scalar | list => simp [Term.fitsLeft] at fits

/-- The literals of a right side. -/
theorem Term.contents_rightPieces {op : Operator} {left right : Term} (fitsLeft : left.fitsLeft op)
    (fitsRight : right.fitsRight op) (columnsLeft : ∀ name ∈ left.columns, quote ∉ name.toList)
    (columnsRight : ∀ name ∈ right.columns, quote ∉ name.toList) :
    contents (right.rightPieces op left) = right.literalsRight op := by
  unfold Term.rightPieces Term.literalsRight
  cases family : op.family with
  | nullTest => exact Sql.contents_codes _
  | pattern =>
    cases right with
    | scalar value =>
      -- only a column fits on the left
      cases left with
      | column name =>
        exact contents_patternPieces (columnsLeft name List.mem_cons_self) op.keyword value.written
      | scalar | list | nested => simp [Term.fitsLeft, family] at fitsLeft
    | column | list | nested => cases left <;> rfl
  | connective | comparison | membership =>
    -- in front stands a keyword, which is code
    rw [Sql.contents_append, Sql.contents_codes, List.nil_append]
    cases right with
    | column name => exact contents_namePieces (columnsRight name List.mem_cons_self)
    | scalar value => rfl
    | list items => exact contents_listPieces items
    | nested inner =>
      have writable : inner.isWritable := by simpa [Term.fitsRight, family] using fitsRight
      exact Expression.contents_pieces writable columnsRight

end

/-! ### The same clause with other scalars -/

namespace Clause

/-- The **verdict** on an expression: the error, or that there is none. -/
def verdict {α : Type} (result : Except ClauseError α) : Except ClauseError Unit :=
  result.map fun _ => ()

@[simp] theorem verdict_ok {α : Type} (a : α) : verdict (.ok a) = .ok () := rfl

@[simp] theorem verdict_error {α : Type} (err : ClauseError) :
    verdict (.error err : Except ClauseError α) = .error err := rfl

/-- Verdicts agree step by step, if what follows a step does not depend on what it has given. -/
theorem verdict_bind {α β : Type} {x y : Except ClauseError α} {f g : α → Except ClauseError β}
    (first : verdict x = verdict y) (next : ∀ a b, verdict (f a) = verdict (g b)) :
    verdict (x >>= f) = verdict (y >>= g) := by
  -- two results of the same verdict are both errors, or both values
  cases x with
  | error err =>
    cases y with
    | error err' =>
      obtain rfl : err = err' := by simpa using first
      rfl
    | ok b => simp at first
  | ok a =>
    cases y with
    | error err => simp at first
    | ok b => exact next a b

theorem verdict_eq_iff {α : Type} {x y : Except ClauseError α} :
    verdict x = verdict y ↔
      (∃ err, x = .error err ∧ y = .error err) ∨ (∃ a b, x = .ok a ∧ y = .ok b) := by
  cases x <;> cases y <;> simp [eq_comm]

end Clause

theorem Scalar.asText?_of_kind_ne {v : Scalar} (h : v.kind ≠ .text) : v.asText? = none := by
  cases v with
  | text text => exact absurd rfl h
  | int | float | bool | uuid | timestamp => rfl

/-- Scalars are changed to scalars of the same kind. -/
def Scalar.KeepsKind (f : Scalar → Scalar) : Prop := ∀ value, (f value).kind = value.kind

section KeepsKind

variable {f : Scalar → Scalar}

namespace Clause

theorem verdict_flatLeft (f : Scalar → Scalar) (op : Operator) (left : Term) :
    verdict (flatLeft op (left.mapScalars f)) = verdict (flatLeft op left) := by
  cases left <;> rfl

/-- A pattern operator looks at the kind of its scalar, and at nothing else in it. -/
theorem verdict_patternRight (keeps : Scalar.KeepsKind f) (op : Operator) (left right : Term) :
    verdict (patternRight op (left.mapScalars f) (right.mapScalars f))
      = verdict (patternRight op left right) := by
  cases right with
  | scalar value =>
    -- a text stays a text, and any other kind is refused with its name
    by_cases isText : value.kind = .text
    · obtain ⟨text, rfl⟩ := Scalar.eq_text_of_kind isText
      obtain ⟨text', changed⟩ := Scalar.eq_text_of_kind ((keeps (.text text)).trans isText)
      cases left <;> simp [patternRight, Term.mapScalars, changed, Scalar.asText?, Term.kind]
    · have changed : (f value).kind ≠ .text := fun h => isText ((keeps value).symm.trans h)
      simp [patternRight, Term.mapScalars, Scalar.asText?_of_kind_ne isText,
        Scalar.asText?_of_kind_ne changed, keeps value]
  | column | list | nested => rfl

theorem verdict_flatRight (keeps : Scalar.KeepsKind f) (op : Operator) (left right : Term) :
    verdict (flatRight op (left.mapScalars f) (right.mapScalars f))
      = verdict (flatRight op left right) := by
  unfold flatRight
  cases op.family with
  | connective | comparison => cases right <;> rfl
  | membership =>
    cases right with
    | list items => cases items <;> rfl
    | column | scalar | nested => rfl
  | pattern => exact verdict_patternRight keeps op left right
  | nullTest => rfl

end Clause

mutual

/-- **An error names no value**: with other scalars of the same kinds, an expression has a clause
where it had one, and else is refused for the same reason. -/
theorem Expression.verdict_mapScalars (keeps : Scalar.KeepsKind f) (limit depth : Nat)
    (e : Expression) :
    verdict ((e.mapScalars f).plainClause limit depth) = verdict (e.plainClause limit depth) := by
  cases e with
  | unary left op =>
    rw [Expression.mapScalars, Expression.plainClause, Expression.plainClause]
    -- the check of the depth and the missing right side do not depend on scalars at all
    apply verdict_bind rfl
    intro _ _
    apply verdict_bind (Term.verdict_mapScalars_left keeps limit depth op left)
    intro _ _
    exact verdict_bind rfl fun _ _ => rfl
  | binary left op right =>
    rw [Expression.mapScalars, Expression.plainClause, Expression.plainClause]
    -- as above, with a right side in place of a missing one
    apply verdict_bind rfl
    intro _ _
    apply verdict_bind (Term.verdict_mapScalars_left keeps limit depth op left)
    intro _ _
    exact verdict_bind (Term.verdict_mapScalars_right keeps limit depth op left right)
      fun _ _ => rfl

theorem Term.verdict_mapScalars_left (keeps : Scalar.KeepsKind f) (limit depth : Nat)
    (op : Operator) (t : Term) :
    verdict ((t.mapScalars f).plainLeft limit depth op) = verdict (t.plainLeft limit depth op) := by
  cases t with
  | nested inner =>
    rw [Term.mapScalars, Term.plainLeft, Term.plainLeft]
    cases op.family with
    -- a nested left side is refused before anything in it is looked at
    | pattern => rfl
    | connective | comparison | membership | nullTest =>
      exact verdict_bind (inner.verdict_mapScalars keeps limit (depth + 1)) fun _ _ => rfl
  | column name => exact verdict_flatLeft f op (.column name)
  | scalar value => exact verdict_flatLeft f op (.scalar value)
  | list items => exact verdict_flatLeft f op (.list items)

theorem Term.verdict_mapScalars_right (keeps : Scalar.KeepsKind f) (limit depth : Nat)
    (op : Operator) (left right : Term) :
    verdict (Term.plainRight limit depth op (left.mapScalars f) (right.mapScalars f))
      = verdict (Term.plainRight limit depth op left right) := by
  cases right with
  | nested inner =>
    rw [Term.mapScalars, Term.plainRight, Term.plainRight]
    cases op.family with
    | connective =>
      exact verdict_bind (inner.verdict_mapScalars keeps limit depth) fun _ _ => rfl
    | comparison | membership =>
      exact verdict_bind (inner.verdict_mapScalars keeps limit (depth + 1)) fun _ _ => rfl
    -- the nested expression is refused with its kind, or ignored
    | pattern | nullTest => exact verdict_flatRight keeps op left (.nested inner)
  | column name => exact verdict_flatRight keeps op left (.column name)
  | scalar value => exact verdict_flatRight keeps op left (.scalar value)
  | list items => exact verdict_flatRight keeps op left (.list items)

end

end KeepsKind

namespace Clause

theorem masked_listPieces (f : Scalar → Scalar) (items : List Scalar) :
    (listPieces (items.map f)).map Piece.masked = (listPieces items).map Piece.masked := by
  have inner : (((items.map f).map fun v => Piece.literal v.written).intersperse (.code ',')).map
        Piece.masked
      = ((items.map fun v => Piece.literal v.written).intersperse (.code ',')).map
        Piece.masked := by
    -- one literal masked is as good as another, and the lists are equally long
    induction items with
    | nil => rfl
    | cons v items ih =>
      cases items with
      | nil => rfl
      | cons w items =>
        exact congrArg (Piece.masked (.literal []) :: Piece.masked (.code ',') :: ·) ih
  simp only [listPieces, List.map_append, List.map_cons, inner]

theorem masked_patternPieces (keyword name : String) (text text' : List Char) :
    (patternPieces keyword name text).map Piece.masked
      = (patternPieces keyword name text').map Piece.masked := by
  simp [patternPieces, testPieces, Piece.masked]

end Clause

mutual

/-- **Masked, the pieces do not depend on the scalars.** -/
theorem Expression.masked_pieces_mapScalars (f : Scalar → Scalar) (e : Expression) :
    (e.mapScalars f).pieces.map Piece.masked = e.pieces.map Piece.masked := by
  cases e with
  | unary left op =>
    have hleft := Term.masked_leftPieces_mapScalars f op left
    simp [Expression.mapScalars, Expression.pieces, hleft]
  | binary left op right =>
    have hleft := Term.masked_leftPieces_mapScalars f op left
    have hright := Term.masked_rightPieces_mapScalars f op left right
    simp [Expression.mapScalars, Expression.pieces, hleft, hright]

theorem Term.masked_leftPieces_mapScalars (f : Scalar → Scalar) (op : Operator) (t : Term) :
    ((t.mapScalars f).leftPieces op).map Piece.masked
      = (t.leftPieces op).map Piece.masked := by
  cases t with
  | nested inner =>
    have hinner := inner.masked_pieces_mapScalars f
    simp [Term.mapScalars, Term.leftPieces, hinner]
  | column | scalar | list => rfl

theorem Term.masked_rightPieces_mapScalars (f : Scalar → Scalar) (op : Operator)
    (left right : Term) :
    ((right.mapScalars f).rightPieces op (left.mapScalars f)).map Piece.masked
      = (right.rightPieces op left).map Piece.masked := by
  unfold Term.rightPieces
  cases op.family with
  | nullTest => rfl
  -- the pattern is one literal in each test, whatever its text
  | pattern =>
    cases left with
    | column name =>
      cases right with
      | scalar value => exact masked_patternPieces op.keyword name _ _
      | column | list | nested => rfl
    | scalar | list | nested => rfl
  | connective | comparison | membership =>
    rw [List.map_append, List.map_append]
    congr 1
    cases right with
    | column | scalar => rfl
    | list items => exact masked_listPieces f items
    | nested inner => exact inner.masked_pieces_mapScalars f

end

/-! ### Both statements -/

theorem Scalar.keepsKind_sample : Scalar.KeepsKind Scalar.sample := by
  intro value
  cases value <;> rfl

/-- Alike expressions have the same verdict, that of the expression with sample scalars. -/
theorem Expression.Alike.verdict_eq {a b : Expression} (h : a.Alike b) (limit : Nat) :
    verdict (a.toClause limit) = verdict (b.toClause limit) := by
  have sampled : a.mapScalars Scalar.sample = b.mapScalars Scalar.sample := h
  rw [a.toClause_eq_plainClause, b.toClause_eq_plainClause]
  calc verdict (a.plainClause limit 1)
      = verdict ((a.mapScalars Scalar.sample).plainClause limit 1) :=
        (a.verdict_mapScalars Scalar.keepsKind_sample limit 1).symm
    _ = verdict ((b.mapScalars Scalar.sample).plainClause limit 1) := by rw [sampled]
    _ = verdict (b.plainClause limit 1) := b.verdict_mapScalars Scalar.keepsKind_sample limit 1

/-- Alike expressions have the same pieces outside of literals. -/
theorem Expression.Alike.masked_eq {a b : Expression} (h : a.Alike b) :
    a.pieces.map Piece.masked = b.pieces.map Piece.masked := by
  have sampled : a.mapScalars Scalar.sample = b.mapScalars Scalar.sample := h
  calc a.pieces.map Piece.masked
      = (a.mapScalars Scalar.sample).pieces.map Piece.masked :=
        (a.masked_pieces_mapScalars Scalar.sample).symm
    _ = (b.mapScalars Scalar.sample).pieces.map Piece.masked := by rw [sampled]
    _ = b.pieces.map Piece.masked := b.masked_pieces_mapScalars Scalar.sample

/-- **Scalars stay in their literals.** A clause ends outside of literals, and its literals are the
scalars as they are written; and expressions that differ only in the values of scalars of one kind
are refused alike, or have clauses that differ only in what stands in the literals. -/
theorem Expression.scalars_stay_in_literals :
    (∀ (limit : Nat) (e : Expression) (s : String),
      (∀ name ∈ e.columns, quote ∉ name.toList) → e.toClause limit = .ok s →
        ∃ ps, pieces? s.toList = some ps ∧ contents ps = e.literals)
    ∧ ∀ (limit : Nat) (a b : Expression), a.Alike b →
      (∃ err, a.toClause limit = .error err ∧ b.toClause limit = .error err)
      ∨ ∃ s t ps qs, a.toClause limit = .ok s ∧ b.toClause limit = .ok t ∧
          pieces? s.toList = some ps ∧ pieces? t.toList = some qs ∧
          ps.map Piece.masked = qs.map Piece.masked := by
  refine ⟨?_, ?_⟩
  · intro limit e s columns clause
    -- a clause is only written by a writable expression, which has its literals told
    have writable := (Expression.toClause_ok clause).1
    exact ⟨e.pieces, Expression.pieces?_of_toClause clause,
      Expression.contents_pieces writable columns⟩
  · intro limit a b alike
    rcases verdict_eq_iff.mp (alike.verdict_eq limit) with ⟨err, ha, hb⟩ | ⟨s, t, ha, hb⟩
    · exact .inl ⟨err, ha, hb⟩
    · exact .inr ⟨s, t, a.pieces, b.pieces, ha, hb, Expression.pieces?_of_toClause ha,
        Expression.pieces?_of_toClause hb, alike.masked_eq⟩

/-- A quote and a comment's dashes in a text that a name is matched with, and the same test with
another text. -/
theorem Expression.scalars_stay_in_literals_of_quote :
    let e := Expression.binary (.column "name") .contains (.scalar (.text "it's--"))
    let other := Expression.binary (.column "name") .contains (.scalar (.text ""))
    e.toClause 1 = .ok "((name LIKE 'it''s%'OR name LIKE '%it''s%'OR name LIKE '%it''s'))"
      ∧ (∃ ps, pieces?
            "((name LIKE 'it''s%'OR name LIKE '%it''s%'OR name LIKE '%it''s'))".toList = some ps
          ∧ contents ps = ["it's%".toList, "%it's%".toList, "%it's".toList])
      ∧ ∃ s t ps qs, e.toClause 1 = .ok s ∧ other.toClause 1 = .ok t ∧
          pieces? s.toList = some ps ∧ pieces? t.toList = some qs ∧
          ps.map Piece.masked = qs.map Piece.masked := by
  intro e other
  have clause : e.toClause 1
      = .ok "((name LIKE 'it''s%'OR name LIKE '%it''s%'OR name LIKE '%it''s'))" := by decide
  have noQuote : ∀ name ∈ e.columns, quote ∉ name.toList := by decide
  have alike : e.Alike other := rfl
  refine ⟨clause, ?_, ?_⟩
  · obtain ⟨ps, read, literals⟩ := scalars_stay_in_literals.1 1 e _ noQuote clause
    refine ⟨ps, read, ?_⟩
    rw [literals]
    decide
  · -- the two clauses exist, since one of the errors would contradict the clause
    refine (scalars_stay_in_literals.2 1 e other alike).resolve_left ?_
    rintro ⟨err, refused, -⟩
    rw [clause] at refused
    cases refused

end SqlFilter
