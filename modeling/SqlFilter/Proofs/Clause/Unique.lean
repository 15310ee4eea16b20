import SqlFilter.Proofs.Clause.Parts

/-!
# Clauses are uniquely readable

If two expressions with plain names have the same clause, they have the same normal form
(`Expression.normal_eq_of_toClause_eq`). Since the clause is its pieces, this is a statement on
lists of pieces, and it is proved in the stronger form `Expression.ReadsUniquely`, with more pieces
behind either clause: reading on from equal pieces, the two clauses end at the same place.

Parts of a clause that nest no expression are told apart in `SqlFilter.Proofs.Clause.Parts`. Two
questions are left, and each is answered by looking a little ahead.

* **Of what kind is a term?** The first two pieces tell (`Clause.kindOf`). A list and a nested
  expression both open a parenthesis; behind it stands a literal in a list, and never in an
  expression.
* **Is it a pattern?** A pattern opens two parentheses before its column. So does an expression with
  an expression on its left; but then the operator behind the column is not a pattern operator
  (`Expression.IsPlain.op_ne_pattern`).
-/

namespace SqlFilter

open Sql (Piece codes)
open Clause

/-- The right term, unless it is ignored. -/
def Expression.operand? (e : Expression) : Option Term :=
  if e.op.family = .nullTest then none else e.right?

theorem Expression.operand?_unary (left : Term) (op : Operator) :
    (unary left op).operand? = none := by
  simp [operand?, right?]

theorem Expression.operand?_binary (left : Term) (op : Operator) (right : Term) :
    (binary left op right).operand? = if op.family = .nullTest then none else some right := rfl

theorem Expression.operand?_binary_eq_some {left : Term} {op : Operator} {right t : Term} :
    (binary left op right).operand? = some t ↔ op.family ≠ .nullTest ∧ t = right := by
  rw [operand?_binary]
  by_cases isTest : op.family = .nullTest
  · simp [isTest]
  · simp [isTest, eq_comm]

theorem Expression.normal_eq (e : Expression) :
    e.normal = ofParts e.left.normal e.op (e.operand?.map Term.normal) := by
  cases e with
  | unary left op =>
    rw [operand?_unary]
    rfl
  | binary left op right =>
    rw [operand?_binary, normal]
    cases op.family <;> rfl

/-! ### Plain expressions -/

/-- Expressions that have a clause, with plain names only. -/
structure Expression.IsPlain (e : Expression) : Prop where
  isWritable : e.isWritable
  columns : ∀ name ∈ e.columns, IsPlainName name

/-- Terms that nest nothing but plain expressions, and have plain names. -/
structure Term.IsPlain (t : Term) : Prop where
  isWritable : ∀ inner, t = .nested inner → inner.isWritable
  columns : ∀ name ∈ t.columns, IsPlainName name

theorem Term.IsPlain.column {name : String} (h : (Term.column name).IsPlain) : IsPlainName name :=
  h.columns name List.mem_cons_self

theorem Term.IsPlain.nested {inner : Expression} (h : (Term.nested inner).IsPlain) :
    inner.IsPlain :=
  ⟨h.isWritable inner rfl, h.columns⟩

namespace Expression.IsPlain

variable {e : Expression}

theorem fitsLeft (h : e.IsPlain) : e.left.fitsLeft e.op := by
  cases e with
  | unary left op => exact (isWritable_unary.mp h.isWritable).1
  | binary left op right => exact (isWritable_binary.mp h.isWritable).1

theorem left (h : e.IsPlain) : e.left.IsPlain := by
  refine ⟨?_, ?_⟩
  · intro inner isNested
    -- a nested left side fits only if it is writable itself
    have fits := h.fitsLeft
    rw [isNested, Term.fitsLeft, Bool.and_eq_true] at fits
    exact fits.2
  · intro name mem
    apply h.columns name
    cases e with
    | unary left op => exact mem
    | binary left op right => exact List.mem_append_left _ mem

/-- The left side is a column or a nested expression. -/
theorem left_cases (h : e.IsPlain) :
    (∃ name, e.left = .column name ∧ IsPlainName name)
      ∨ ∃ inner, e.left = .nested inner ∧ inner.IsPlain := by
  have fits := h.fitsLeft
  have plain := h.left
  generalize e.left = left at fits plain
  cases left with
  | column name => exact .inl ⟨name, rfl, plain.column⟩
  | nested inner => exact .inr ⟨inner, rfl, plain.nested⟩
  | scalar | list => simp [Term.fitsLeft] at fits

/-- What is not ignored on the right is plain. -/
theorem operand (h : e.IsPlain) {t : Term} (ht : e.operand? = some t) : t.IsPlain := by
  cases e with
  | unary left op =>
    rw [operand?_unary] at ht
    cases ht
  | binary left op right =>
    obtain ⟨notTest, rfl⟩ := operand?_binary_eq_some.mp ht
    refine ⟨?_, ?_⟩
    · -- under a null test the right term is not looked at, and it would be `none` here
      intro inner isNested
      have fits := (isWritable_binary.mp h.isWritable).2
      rw [isNested, Term.fitsRight] at fits
      cases family : op.family with
      | connective | comparison | membership => simpa only [family] using fits
      | pattern => simp [family] at fits
      | nullTest => exact absurd family notTest
    · intro name mem
      exact h.columns name (List.mem_append_right _ mem)

/-- Every expression but the patterns has its terms written out, the ignored one apart. -/
theorem pieces_eq (h : e.IsPlain) (notPattern : e.op.family ≠ .pattern) :
    e.pieces = .code '(' :: (e.left.pieces ++ .code ' ' :: (codes e.op.keyword.toList ++
      ((e.operand?.map Term.pieces).getD [] ++ [.code ')']))) := by
  -- only a pattern operator leaves the column out here
  have leftPieces : e.left.leftPieces e.op = e.left.pieces ++ [.code ' '] := by
    rcases h.left_cases with ⟨name, isColumn, -⟩ | ⟨inner, isNested, -⟩
    · rw [isColumn, Term.leftPieces, Term.pieces]
      cases family : e.op.family with
      | pattern => exact absurd family notPattern
      | connective | comparison | membership | nullTest => rfl
    · rw [isNested]
      rfl
  cases e with
  | unary left op =>
    rw [Expression.left, Expression.op] at leftPieces
    rw [operand?_unary, Expression.pieces, Expression.left, leftPieces]
    simp [Expression.op]
  | binary left op right =>
    rw [Expression.left, Expression.op] at leftPieces
    rw [operand?_binary, Expression.pieces, Expression.left, leftPieces]
    by_cases isTest : op.family = .nullTest
    · rw [if_pos isTest, Term.rightPieces_of_nullTest isTest]
      simp [Expression.op]
    · rw [if_neg isTest, Term.rightPieces_of_operand isTest notPattern]
      simp [Expression.op]

/-- A pattern is a test of a column against a text. -/
theorem eq_of_pattern (h : e.IsPlain) (isPattern : e.op.family = .pattern) :
    ∃ name text, e = .binary (.column name) e.op (.scalar (.text text)) ∧ IsPlainName name := by
  cases e with
  | unary left op =>
    -- without a right term the operator is a null test, and no pattern operator
    have isTest := (isWritable_unary.mp h.isWritable).2
    rw [Expression.op, isTest] at isPattern
    cases isPattern
  | binary left op right =>
    rw [Expression.op] at isPattern
    have writable := isWritable_binary.mp h.isWritable
    obtain ⟨name, rfl⟩ : ∃ name, left = .column name := by
      cases left with
      | column name => exact ⟨name, rfl⟩
      | scalar | list | nested => simp [Term.fitsLeft, isPattern] at writable
    obtain ⟨text, rfl⟩ : ∃ text, right = .scalar (.text text) := by
      cases right with
      | scalar value =>
        have isText : value.kind = .text := by simpa [Term.fitsRight, isPattern] using writable.2
        obtain ⟨text, rfl⟩ := Scalar.eq_text_of_kind isText
        exact ⟨text, rfl⟩
      | column | list | nested => simp [Term.fitsRight, isPattern] at writable
    exact ⟨name, text, rfl, h.left.column⟩

end Expression.IsPlain

/-! ### The kind of a term -/

/-- The kind of the term that the pieces begin with. -/
def Clause.kindOf : List Piece → Term.Kind
  | .literal _ :: _ => .scalar
  | .code c :: next :: _ =>
    if c = '(' then
      match next with
      | .literal _ => .list
      | .code d => if d = ')' then .list else .nested
    else .column
  | _ => .column

theorem Expression.exists_pieces_eq_cons (e : Expression) : ∃ ps, e.pieces = .code '(' :: ps := by
  cases e <;> exact ⟨_, rfl⟩

theorem Expression.pieces_of_pattern {op : Operator} (h : op.family = .pattern)
    (name text : String) :
    (binary (.column name) op (.scalar (.text text))).pieces
      = .code '(' :: (patternPieces op.keyword name (Scalar.text text).written ++ [.code ')']) := by
  have left : (Term.column name).leftPieces op = [] := by rw [Term.leftPieces, h]
  have right : (Term.scalar (.text text)).rightPieces op (.column name)
      = patternPieces op.keyword name (Scalar.text text).written := by rw [Term.rightPieces, h]
  rw [pieces, left, right]
  rfl

/-- Behind the parenthesis that opens an expression stands another one or a name. -/
theorem Expression.IsPlain.pieces_eq_cons {e : Expression} (h : e.IsPlain) :
    ∃ c ps, e.pieces = .code '(' :: .code c :: ps ∧ (c = '(' ∨ IsNameChar c) := by
  -- a pattern opens its tests with a parenthesis of its own
  by_cases isPattern : e.op.family = .pattern
  · obtain ⟨name, text, whole, -⟩ := h.eq_of_pattern isPattern
    rw [whole, pieces_of_pattern isPattern]
    exact ⟨'(', _, rfl, .inl rfl⟩
  · rw [h.pieces_eq isPattern]
    rcases h.left_cases with ⟨name, isColumn, hname⟩ | ⟨inner, isNested, -⟩
    · obtain ⟨c, cs, whole, isName⟩ := hname.exists_cons
      rw [isColumn, Term.pieces, hname.namePieces_eq, whole]
      exact ⟨c, _, rfl, .inr isName⟩
    · -- and so does an expression on the left
      obtain ⟨ps, opened⟩ := inner.exists_pieces_eq_cons
      rw [isNested, Term.pieces, opened]
      exact ⟨'(', _, rfl, .inl rfl⟩

/-- **Two pieces tell the kind of a term.** -/
theorem Term.IsPlain.kindOf_pieces {t : Term} (h : t.IsPlain) (ps : List Piece) :
    kindOf (t.pieces ++ ps) = t.kind := by
  cases t with
  | column name =>
    -- a plain name has a first character, and it is not a parenthesis
    obtain ⟨c, cs, whole, isName⟩ := h.column.exists_cons
    have notOpen : c ≠ '(' := by
      rintro rfl
      exact absurd isName (by decide)
    rw [Term.pieces, h.column.namePieces_eq, whole]
    change kindOf (.code c :: (codes cs ++ ps)) = .column
    cases codes cs ++ ps with
    | nil => rfl
    | cons p ps => exact if_neg notOpen
  | scalar value => rfl
  | list items =>
    cases items with
    | nil => rfl
    | cons v items => cases items <;> rfl
  | nested inner =>
    -- behind the parenthesis of an expression never stands the one that closes an empty list
    obtain ⟨c, qs, opened, next⟩ := h.nested.pieces_eq_cons
    have notClose : c ≠ ')' := by
      rintro rfl
      revert next
      decide
    rw [Term.pieces, opened]
    simp [kindOf, notClose, Term.kind]

/-! ### Reading on -/

/-- From the pieces of the clause, the normal form can be read, and where the clause ends. -/
def Expression.ReadsUniquely (a : Expression) : Prop :=
  ∀ ⦃b : Expression⦄, b.IsPlain → ∀ ⦃ps qs : List Piece⦄, a.pieces ++ ps = b.pieces ++ qs →
    a.normal = b.normal ∧ ps = qs

/-- The same of a term, which ends before a blank or a parenthesis. -/
def Term.ReadsUniquely (s : Term) : Prop :=
  ∀ ⦃t : Term⦄, t.IsPlain → ∀ ⦃c d : Char⦄, ¬ IsNameChar c → ¬ IsNameChar d →
    ∀ ⦃ps qs : List Piece⦄, s.pieces ++ .code c :: ps = t.pieces ++ .code d :: qs →
      s.normal = t.normal ∧ c = d ∧ ps = qs

/-- A scalar's normal form is told by what is written of it. -/
theorem Scalar.normal_eq (value : Scalar) :
    value.normal = .text (String.ofList (Sanitize.doubleQuotes value.written)) := by
  rw [Scalar.normal, ← toList_literalText, String.ofList_toList]

theorem Scalar.map_normal_eq_of_map_written_eq {vs ws : List Scalar}
    (h : vs.map Scalar.written = ws.map Scalar.written) :
    vs.map Scalar.normal = ws.map Scalar.normal := by
  -- the normal form of a scalar is a function of what is written of it
  have told : Scalar.normal
      = (fun cs => Scalar.text (String.ofList (Sanitize.doubleQuotes cs))) ∘ Scalar.written :=
    funext Scalar.normal_eq
  rw [told, ← List.map_map, ← List.map_map, h]

/-- Pieces that begin with a parenthesis do not begin with a name. -/
theorem IsPlainName.ne_cons_paren {name : String} (h : IsPlainName name) (ps qs : List Piece) :
    namePieces name ++ ps ≠ .code '(' :: qs :=
  h.ne_cons_code (by decide) ps qs

/-- **The operator behind a column is no pattern operator**, in an expression whose pieces begin
with a column. -/
theorem Expression.IsPlain.op_ne_pattern {e : Expression} (h : e.IsPlain) {name : String}
    (hname : IsPlainName name) {op : Operator} {ps qs : List Piece}
    (begins : e.pieces ++ ps
      = .code '(' :: (namePieces name ++ .code ' ' :: (codes op.keyword.toList ++ qs))) :
    op.family ≠ .pattern := by
  by_cases isPattern : e.op.family = .pattern
  · -- behind the first parenthesis of a pattern stands another one
    obtain ⟨name', text, whole, -⟩ := h.eq_of_pattern isPattern
    rw [whole, pieces_of_pattern isPattern] at begins
    exact absurd (List.cons.inj begins).2.symm (hname.ne_cons_paren _ _)
  · rw [h.pieces_eq isPattern] at begins
    simp only [List.cons_append, List.append_assoc, List.cons.injEq, true_and] at begins
    -- what stands on the left of `e`: the same column, or a parenthesis, which begins no name
    rcases h.left_cases with ⟨name', isColumn, hname'⟩ | ⟨inner, isNested, -⟩
    · rw [isColumn, Term.pieces] at begins
      have blank : ¬ IsNameChar ' ' := by decide
      obtain ⟨-, -, rest⟩ := name_append_inj hname' hname blank blank begins
      rwa [← (keyword_append_inj rest).1]
    · obtain ⟨opens, opened⟩ := inner.exists_pieces_eq_cons
      rw [isNested, Term.pieces, opened] at begins
      exact absurd begins.symm (hname.ne_cons_paren _ _)

/-- A pattern is not read as anything else. -/
theorem Expression.IsPlain.pattern_of_pieces_eq {a b : Expression} (ha : a.IsPlain)
    (hb : b.IsPlain) {ps qs : List Piece} (h : a.pieces ++ ps = b.pieces ++ qs)
    (isPattern : a.op.family = .pattern) : b.op.family = .pattern := by
  -- otherwise `b` would begin with a column, or with an expression that has a pattern operator
  by_contra notPattern
  obtain ⟨name, text, whole, hname⟩ := ha.eq_of_pattern isPattern
  rw [whole, pieces_of_pattern isPattern, hb.pieces_eq notPattern] at h
  simp only [List.cons_append, List.append_assoc, List.cons.injEq, true_and] at h
  rcases hb.left_cases with ⟨name', isColumn, hname'⟩ | ⟨inner, isNested, hinner⟩
  · rw [isColumn] at h
    exact hname'.ne_cons_paren _ _ h.symm
  · rw [isNested] at h
    simp only [patternPieces, List.cons_append, List.append_assoc, testPieces_append] at h
    exact hinner.op_ne_pattern hname h.symm isPattern

theorem Expression.IsPlain.operand?_eq_none_iff {e : Expression} (h : e.IsPlain) :
    e.operand? = none ↔ e.op.family = .nullTest := by
  cases e with
  | unary left op =>
    exact iff_of_true (operand?_unary left op) (isWritable_unary.mp h.isWritable).2
  | binary left op right =>
    rw [operand?_binary]
    by_cases isTest : op.family = .nullTest
    · exact iff_of_true (if_pos isTest) isTest
    · rw [if_neg isTest]
      exact iff_of_false (Option.some_ne_none right) isTest

/-- A pattern reads uniquely. -/
theorem Expression.IsPlain.readsUniquely_of_pattern {a : Expression} (ha : a.IsPlain)
    (isPattern : a.op.family = .pattern) : a.ReadsUniquely := by
  -- the pieces of a pattern are known, and so is where they end
  intro b hb ps qs h
  have isPattern' := ha.pattern_of_pieces_eq hb h isPattern
  obtain ⟨name, text, whole, hname⟩ := ha.eq_of_pattern isPattern
  obtain ⟨name', text', whole', hname'⟩ := hb.eq_of_pattern isPattern'
  rw [whole, whole', pieces_of_pattern isPattern, pieces_of_pattern isPattern'] at h
  simp only [List.cons_append, List.append_assoc, List.cons.injEq, true_and] at h
  obtain ⟨sameOp, rfl, written, rest⟩ := patternPieces_append_inj hname hname' h
  have sameText : (Scalar.text text).normal = (Scalar.text text').normal := by
    rw [Scalar.normal_eq, Scalar.normal_eq, written]
  refine ⟨?_, by simpa using rest⟩
  rw [whole, whole', sameOp]
  simp only [normal, Term.normal, sameText]

/-- **One step.** Terms that read uniquely make an expression that does. -/
theorem Expression.IsPlain.readsUniquely {a : Expression} (ha : a.IsPlain)
    (left : a.left.ReadsUniquely) (right : ∀ t, a.operand? = some t → t.ReadsUniquely) :
    a.ReadsUniquely := by
  by_cases isPattern : a.op.family = .pattern
  · exact ha.readsUniquely_of_pattern isPattern
  intro b hb ps qs h
  have notPattern : b.op.family ≠ .pattern :=
    fun isPattern' => isPattern (hb.pattern_of_pieces_eq ha h.symm isPattern')
  rw [ha.pieces_eq isPattern, hb.pieces_eq notPattern] at h
  simp only [List.cons_append, List.append_assoc, List.cons.injEq, true_and] at h
  -- from left to right: the left sides, the operators, and what is behind the operator
  have blank : ¬ IsNameChar ' ' := by decide
  have paren : ¬ IsNameChar ')' := by decide
  obtain ⟨sameLeft, -, h⟩ := left hb.left blank blank h
  obtain ⟨sameOp, h⟩ := keyword_append_inj h
  rw [a.normal_eq, b.normal_eq, sameLeft, sameOp]
  -- the operator says whether there is an operand
  have both : a.operand? = none ↔ b.operand? = none := by
    rw [ha.operand?_eq_none_iff, hb.operand?_eq_none_iff, sameOp]
  cases foundA : a.operand? with
  | none =>
    have foundB := both.mp foundA
    rw [foundA, foundB] at h
    rw [foundB]
    exact ⟨rfl, by simpa using h⟩
  | some t =>
    cases foundB : b.operand? with
    | none =>
      rw [both.mpr foundB] at foundA
      cases foundA
    | some u =>
      rw [foundA, foundB] at h
      obtain ⟨sameRight, -, rest⟩ := right t foundA (hb.operand foundB) paren paren h
      exact ⟨by rw [Option.map_some, Option.map_some, sameRight], rest⟩

/- The induction is on the expression that is read; the other one is arbitrary all along. -/
mutual

/-- **Plain expressions read uniquely.** -/
theorem Expression.readsUniquely {e : Expression} (h : e.IsPlain) : e.ReadsUniquely := by
  cases e with
  | unary left op =>
    -- without a right term there is no operand
    refine h.readsUniquely (Term.readsUniquely h.left) fun t ht => ?_
    rw [Expression.operand?_unary] at ht
    cases ht
  | binary left op right =>
    refine h.readsUniquely (Term.readsUniquely h.left) fun t ht => ?_
    have plain := h.operand ht
    rw [(Expression.operand?_binary_eq_some.mp ht).2] at plain ⊢
    exact Term.readsUniquely plain

/-- Plain terms read uniquely. -/
theorem Term.readsUniquely {t : Term} (h : t.IsPlain) : t.ReadsUniquely := by
  intro u hu c d hc hd ps qs same
  -- the first two pieces are the same, so the two terms are of one kind
  have kinds : t.kind = u.kind := by
    rw [← h.kindOf_pieces (.code c :: ps), same, hu.kindOf_pieces]
  cases t with
  | column name =>
    cases u with
    -- names end at the first character that is no name character
    | column name' =>
      obtain ⟨rfl, rest⟩ := name_append_inj h.column hu.column hc hd same
      exact ⟨rfl, rest⟩
    | scalar | list | nested => cases kinds
  | scalar value =>
    cases u with
    | scalar value' =>
      obtain ⟨written, rest⟩ : value.written = value'.written ∧ c = d ∧ ps = qs := by
        simpa [Term.pieces] using same
      refine ⟨?_, rest⟩
      rw [Term.normal, Term.normal, value.normal_eq, value'.normal_eq, written]
    | column | list | nested => cases kinds
  | list items =>
    cases u with
    | list items' =>
      obtain ⟨written, rest⟩ := listPieces_append_inj same
      have behind : c = d ∧ ps = qs := by simpa using rest
      exact ⟨congrArg Term.list (Scalar.map_normal_eq_of_map_written_eq written), behind⟩
    | column | scalar | nested => cases kinds
  | nested inner =>
    cases u with
    | nested inner' =>
      obtain ⟨normal, rest⟩ := Expression.readsUniquely h.nested hu.nested same
      have behind : c = d ∧ ps = qs := by simpa using rest
      exact ⟨congrArg Term.nested normal, behind⟩
    | column | scalar | list => cases kinds

end

/-- **Clauses are uniquely readable.** Whatever the limits of depth under which they were written,
two equal clauses were written by expressions of the same normal form, if all names are plain. -/
theorem Expression.normal_eq_of_toClause_eq {a b : Expression}
    (ha : ∀ name ∈ a.columns, IsPlainName name) (hb : ∀ name ∈ b.columns, IsPlainName name)
    {m n : Nat} {s : String} (hs : a.toClause m = .ok s) (ht : b.toClause n = .ok s) :
    a.normal = b.normal := by
  -- both texts are read back, and the text is the same
  have same : a.pieces = b.pieces := by
    rw [← Option.some_inj, ← pieces?_of_toClause hs, pieces?_of_toClause ht]
  have plainA : a.IsPlain := ⟨(toClause_ok hs).1, ha⟩
  have plainB : b.IsPlain := ⟨(toClause_ok ht).1, hb⟩
  exact (readsUniquely plainA plainB (congrArg (· ++ []) same)).1

/-- Of a number and of the text of that number there is one clause, and one normal form. -/
theorem Expression.normal_eq_of_same_number :
    let a := Expression.binary (.column "user.id") .equals (.scalar (.int 7))
    let b := Expression.binary (.column "user.id") .equals (.scalar (.text "7"))
    a.toClause 1 = .ok "(user.id = '7')" ∧ b.toClause 2 = .ok "(user.id = '7')"
      ∧ a.normal = b.normal := by
  intro a b
  have plain : ∀ name ∈ ["user.id"], IsPlainName name := by decide
  have clauseA : a.toClause 1 = .ok "(user.id = '7')" := by decide
  have clauseB : b.toClause 2 = .ok "(user.id = '7')" := by decide
  exact ⟨clauseA, clauseB, normal_eq_of_toClause_eq plain plain clauseA clauseB⟩

end SqlFilter
