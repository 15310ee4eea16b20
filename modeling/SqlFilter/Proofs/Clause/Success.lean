import SqlFilter.Proofs.Clause.Pieces

/-!
# When an expression has a clause

An expression has a clause under a limit of depth exactly if every operator has the terms it takes
and the limit is at least the depth that the expression needs. Neither `Expression.isWritable` nor
`Expression.need` writes anything, so the two can be looked at before compiling.

Inside an expression the compiler stands at some depth already, and what counts there is the sum of
that depth and the need of what is left. `Expression.exists_plainClause_iff` is the account at any
depth, and goes by recursion on the expression along with those of its two sides:

* `Term.exists_plainLeft_iff` is for the left side;
* `Term.exists_plainRight_iff` is for the right side, and asks for a left side that fits, since a
  pattern operator looks at its left term once more when it writes its right side.

The other half is about refusal for depth, which always names the limit, and which only a need
beyond the limit can bring about (`Expression.toClause_ne_depthExceeded`).
-/

namespace SqlFilter

namespace Clause

/-! ### The check of the depth -/

theorem checkDepth_eq_ok_iff {limit depth : Nat} {u : Unit} :
    checkDepth limit depth = .ok u ↔ depth ≤ limit := by
  rcases Nat.lt_or_ge limit depth with deep | fits
  · rw [checkDepth_of_lt deep]
    constructor
    · intro h
      cases h
    · intro h
      omega
  · rw [checkDepth_of_le fits]
    exact ⟨fun _ => fits, fun _ => rfl⟩

/-- After the check of the depth, all depends on what follows. -/
theorem exists_checkDepth_bind {limit depth : Nat} {β : Type}
    {x : Except ClauseError β} :
    (∃ b, (checkDepth limit depth >>= fun _ => x) = .ok b)
      ↔ depth ≤ limit ∧ ∃ b, x = .ok b := by
  rw [exists_bind_eq_ok]
  constructor
  · rintro ⟨_, checked, rest⟩
    exact ⟨checkDepth_eq_ok_iff.mp checked, rest⟩
  · rintro ⟨fits, rest⟩
    exact ⟨(), checkDepth_eq_ok_iff.mpr fits, rest⟩

/-! ### Sides that nest no expression -/

/-- Only the null tests do without a right term. -/
theorem exists_withoutRight_iff (op : Operator) :
    (∃ s, withoutRight op = .ok s) ↔ op.family = .nullTest := by
  constructor
  · rintro ⟨s, h⟩
    exact (withoutRight_ok h).1
  · intro isTest
    exact ⟨op.keyword, by rw [withoutRight, isTest]⟩

/-- A column stands on the left of every operator. -/
theorem exists_flatLeft_column (op : Operator) (name : String) :
    ∃ s, flatLeft op (.column name) = .ok s := by
  rw [flatLeft]
  cases op.family with
  | pattern => exact ⟨"", rfl⟩
  | connective | comparison | membership | nullTest => exact ⟨sanitize name ++ " ", rfl⟩

/-- The right term that an operator takes is written, if the left one fits and the right one nests
nothing or is not looked into. -/
theorem exists_flatRight {op : Operator} {left right : Term} (fitsLeft : left.fitsLeft op)
    (fitsRight : right.fitsRight op)
    (flat : right.kind = .nested → op.family = .nullTest) :
    ∃ s, flatRight op left right = .ok s := by
  -- family by family: what is refused on the right does not fit, by the hypothesis on its fit
  unfold flatRight
  cases family : op.family with
  | connective | comparison =>
    cases right with
    | scalar value => exact ⟨_, rfl⟩
    | column name => exact ⟨_, rfl⟩
    | list items => simp [Term.fitsRight, family] at fitsRight
    | nested inner => exact absurd (flat rfl) (by simp [family])
  | membership =>
    cases right with
    | list items =>
      cases items with
      | nil => simp [Term.fitsRight, family] at fitsRight
      | cons v items => exact ⟨_, rfl⟩
    | column | scalar => simp [Term.fitsRight, family] at fitsRight
    | nested inner => exact absurd (flat rfl) (by simp [family])
  | pattern =>
    cases right with
    | scalar value =>
      have isText : value.kind = .text := by simpa [Term.fitsRight, family] using fitsRight
      obtain ⟨text, rfl⟩ := Scalar.eq_text_of_kind isText
      -- only a column fits on the left of a pattern
      cases left with
      | column name => exact ⟨_, rfl⟩
      | scalar | list | nested => simp [Term.fitsLeft, family] at fitsLeft
    | column | list | nested => simp [Term.fitsRight, family] at fitsRight
  | nullTest => exact ⟨_, rfl⟩

end Clause

open Clause

/-! ### The criterion -/

mutual

/-- **When there is a clause at a given depth**: if the expression is writable, and its need counted
from that depth on stays within the limit. -/
theorem Expression.exists_plainClause_iff (limit depth : Nat) (e : Expression) :
    (∃ s, e.plainClause limit depth = .ok s) ↔ e.isWritable ∧ depth + e.need ≤ limit + 1 := by
  cases e with
  | unary left op =>
    rw [Expression.plainClause, exists_checkDepth_bind, exists_bind_eq_ok,
      Expression.isWritable_unary, Expression.need]
    constructor
    · -- the need is the larger of 1 and what the left side needs, and both stay within the limit
      rintro ⟨fits, leftText, hleft, hright⟩
      have leftFits := (left.exists_plainLeft_iff fits op).mp ⟨leftText, hleft⟩
      have isTest := (exists_withoutRight_iff op).mp (exists_bind_ok.mp hright)
      exact ⟨⟨leftFits.1, isTest⟩, by omega⟩
    · rintro ⟨⟨leftFits, isTest⟩, need⟩
      have fits : depth ≤ limit := by omega
      obtain ⟨leftText, hleft⟩ := (left.exists_plainLeft_iff fits op).mpr ⟨leftFits, by omega⟩
      exact ⟨fits, leftText, hleft, exists_bind_ok.mpr ((exists_withoutRight_iff op).mpr isTest)⟩
  | binary left op right =>
    rw [Expression.plainClause, exists_checkDepth_bind, exists_bind_eq_ok,
      Expression.isWritable_binary, Expression.need]
    constructor
    · -- the right side is only reached where the left one was written, so it may ask for its fit
      rintro ⟨fits, leftText, hleft, hright⟩
      have leftFits := (left.exists_plainLeft_iff fits op).mp ⟨leftText, hleft⟩
      have rightFits :=
        (Term.exists_plainRight_iff fits leftFits.1 right).mp (exists_bind_ok.mp hright)
      exact ⟨⟨leftFits.1, rightFits.1⟩, by omega⟩
    · rintro ⟨⟨leftFits, rightFits⟩, need⟩
      -- the check at this depth passes, because the need of an expression is never 0
      have fits : depth ≤ limit := by omega
      obtain ⟨leftText, hleft⟩ := (left.exists_plainLeft_iff fits op).mpr ⟨leftFits, by omega⟩
      have hright := (Term.exists_plainRight_iff fits leftFits right).mpr ⟨rightFits, by omega⟩
      exact ⟨fits, leftText, hleft, exists_bind_ok.mpr hright⟩

/-- When there is a left side. What it nests stands one level deeper. -/
theorem Term.exists_plainLeft_iff {limit depth : Nat} (fits : depth ≤ limit) (op : Operator)
    (t : Term) :
    (∃ s, t.plainLeft limit depth op = .ok s)
      ↔ t.fitsLeft op ∧ depth + t.needLeft ≤ limit + 1 := by
  cases t with
  | column name =>
    rw [Term.plainLeft, Term.needLeft]
    · have written := exists_flatLeft_column op name
      exact ⟨fun _ => ⟨rfl, by omega⟩, fun _ => written⟩
    · simp
    · simp
  -- a value on the left is refused under every operator
  | scalar | list =>
    rw [Term.plainLeft]
    · constructor
      · rintro ⟨s, h⟩
        cases h
      · rintro ⟨h, -⟩
        cases h
    · simp
  | nested inner =>
    have below := inner.exists_plainClause_iff limit (depth + 1)
    rw [Term.plainLeft, Term.fitsLeft, Term.needLeft]
    -- the need of a term counts its own level, which is the 1 that stands at the depth below
    cases op.family with
    | pattern =>
      constructor
      · rintro ⟨s, h⟩
        cases h
      · rintro ⟨h, -⟩
        cases h
    | connective | comparison | membership | nullTest =>
      refine exists_bind_ok.trans (below.trans ?_)
      rw [Nat.add_assoc]
      rfl

/-- When there is an operator and a right side, on whose left `left` fits. The right side of a
connective stays at its depth, and that of a null test is not looked at. -/
theorem Term.exists_plainRight_iff {limit depth : Nat} (fits : depth ≤ limit) {op : Operator}
    {left : Term} (fitsLeft : left.fitsLeft op) (right : Term) :
    (∃ s, Term.plainRight limit depth op left right = .ok s)
      ↔ right.fitsRight op ∧ depth + right.needRight op ≤ limit + 1 := by
  -- sides that nest nothing, or are not looked into, are written at any depth
  have flat : (right.kind = .nested → op.family = .nullTest) → right.needRight op = 0 →
      ((∃ s, flatRight op left right = .ok s)
        ↔ right.fitsRight op ∧ depth + right.needRight op ≤ limit + 1) := by
    intro flat noNeed
    constructor
    · rintro ⟨s, h⟩
      exact ⟨(flatRight_ok h).1, by omega⟩
    · rintro ⟨fitsRight, -⟩
      exact exists_flatRight fitsLeft fitsRight flat
  cases right with
  | column | scalar | list =>
    rw [Term.plainRight]
    · exact flat (by simp [Term.kind]) (by simp [Term.needRight])
    · simp
  | nested inner =>
    cases family : op.family with
    -- a link of a chain: no level is added
    | connective =>
      have beside := inner.exists_plainClause_iff limit depth
      rw [Term.plainRight, Term.fitsRight, Term.needRight]
      simp only [family]
      exact exists_bind_ok.trans beside
    | comparison | membership =>
      have below := inner.exists_plainClause_iff limit (depth + 1)
      rw [Term.plainRight, Term.fitsRight, Term.needRight]
      simp only [family]
      refine exists_bind_ok.trans (below.trans ?_)
      rw [Nat.add_assoc]
    | pattern =>
      -- an expression is no pattern
      rw [Term.plainRight, Term.fitsRight]
      simp [family, flatRight, patternRight]
    | nullTest =>
      rw [Term.plainRight]
      simp only [family]
      exact flat (fun _ => family) (by simp [Term.needRight, family])

end

/-! ### Refusal for depth -/

namespace Clause

theorem withoutRight_ne_depthExceeded (op : Operator) (n : Nat) :
    withoutRight op ≠ .error (.depthExceeded n) := by
  unfold withoutRight
  split <;> simp

theorem flatLeft_ne_depthExceeded (op : Operator) (left : Term) (n : Nat) :
    flatLeft op left ≠ .error (.depthExceeded n) := by
  unfold flatLeft
  cases left with
  | column name => cases op.family <;> simp
  | scalar | list | nested => simp

theorem flatRight_ne_depthExceeded (op : Operator) (left right : Term) (n : Nat) :
    flatRight op left right ≠ .error (.depthExceeded n) := by
  unfold flatRight
  cases op.family with
  | connective | comparison => cases right <;> simp
  | membership =>
    cases right with
    | list items => cases items <;> simp
    | column | scalar | nested => simp
  | pattern =>
    unfold patternRight
    cases right with
    | scalar value =>
      cases value with
      | text text => cases left <;> simp [Scalar.asText?]
      | int | float | bool | uuid | timestamp => simp [Scalar.asText?]
    | column | list | nested => simp
  | nullTest => simp

theorem checkDepth_eq_depthExceeded {limit depth n : Nat}
    (h : checkDepth limit depth = .error (.depthExceeded n)) : n = limit ∧ limit < depth := by
  unfold checkDepth at h
  split at h
  · next deep =>
    cases h
    exact ⟨rfl, deep⟩
  · cases h

end Clause

mutual

/-- **Refusal for depth names the limit**, and the need goes beyond it, whether or not there would
be a clause otherwise. -/
theorem Expression.plainClause_eq_depthExceeded {limit depth n : Nat} {e : Expression}
    (h : e.plainClause limit depth = .error (.depthExceeded n)) :
    n = limit ∧ limit + 1 < depth + e.need := by
  cases e with
  -- the error comes from the first step that fails, and the last step cannot fail for depth
  | unary left op =>
    rw [Expression.plainClause] at h
    rw [Expression.need]
    rcases bind_eq_error.mp h with deep | ⟨-, -, h⟩
    · have := checkDepth_eq_depthExceeded deep
      omega
    rcases bind_eq_error.mp h with deep | ⟨leftText, -, h⟩
    · have := Term.plainLeft_eq_depthExceeded deep
      omega
    rcases bind_eq_error.mp h with missing | ⟨rightText, -, h⟩
    · exact absurd missing (withoutRight_ne_depthExceeded op n)
    · cases h
  | binary left op right =>
    rw [Expression.plainClause] at h
    rw [Expression.need]
    rcases bind_eq_error.mp h with deep | ⟨-, -, h⟩
    · have := checkDepth_eq_depthExceeded deep
      omega
    rcases bind_eq_error.mp h with deep | ⟨leftText, -, h⟩
    · have := Term.plainLeft_eq_depthExceeded deep
      omega
    rcases bind_eq_error.mp h with deep | ⟨rightText, -, h⟩
    · have := Term.plainRight_eq_depthExceeded deep
      omega
    · cases h

theorem Term.plainLeft_eq_depthExceeded {limit depth n : Nat} {op : Operator} {t : Term}
    (h : t.plainLeft limit depth op = .error (.depthExceeded n)) :
    n = limit ∧ limit + 1 < depth + t.needLeft := by
  cases t with
  | nested inner =>
    rw [Term.plainLeft] at h
    rw [Term.needLeft]
    cases family : op.family with
    | pattern => simp [family] at h
    | connective | comparison | membership | nullTest =>
      simp only [family] at h
      rcases bind_eq_error.mp h with deep | ⟨clause, -, h⟩
      · have := Expression.plainClause_eq_depthExceeded deep
        omega
      · cases h
  | column | scalar | list =>
    rw [Term.plainLeft] at h
    · exact absurd h (flatLeft_ne_depthExceeded op _ n)
    · simp

theorem Term.plainRight_eq_depthExceeded {limit depth n : Nat} {op : Operator} {left right : Term}
    (h : Term.plainRight limit depth op left right = .error (.depthExceeded n)) :
    n = limit ∧ limit + 1 < depth + right.needRight op := by
  cases right with
  | nested inner =>
    rw [Term.plainRight] at h
    -- only what is nested can be too deep; what `flatRight` refuses has another reason
    rw [Term.needRight]
    cases family : op.family with
    | connective | comparison | membership =>
      simp only [family] at h ⊢
      rcases bind_eq_error.mp h with deep | ⟨clause, -, h⟩
      · have := Expression.plainClause_eq_depthExceeded deep
        omega
      · cases h
    | pattern | nullTest =>
      simp only [family] at h
      exact absurd h (flatRight_ne_depthExceeded op left _ n)
  | column | scalar | list =>
    rw [Term.plainRight] at h
    · exact absurd h (flatRight_ne_depthExceeded op left _ n)
    · simp

end

/-- **A limit that is at least the need is never the reason for refusal.** -/
theorem Expression.toClause_ne_depthExceeded {limit : Nat} {e : Expression}
    (within : e.need ≤ limit) (n : Nat) : e.toClause limit ≠ .error (.depthExceeded n) := by
  intro h
  rw [e.toClause_eq_plainClause] at h
  have := Expression.plainClause_eq_depthExceeded h
  omega

/-! ### The account -/

/-- An expression has a clause if its shape and its need allow it. -/
theorem Expression.hasClause_iff (limit : Nat) (e : Expression) :
    (∃ text, e.toClause limit = .ok text) ↔ e.isWritable ∧ e.need ≤ limit := by
  rw [e.toClause_eq_plainClause, e.exists_plainClause_iff limit 1, Nat.add_comm 1,
    Nat.add_le_add_iff_right]

/-- **When an expression has a clause**: exactly if every operator has the terms that it takes and
the expression needs no more depth than the limit allows. Where depth is the reason for refusal, the
limit is what the error names. -/
theorem Expression.exists_toClause_iff (limit : Nat) (e : Expression) :
    ((∃ text, e.toClause limit = .ok text) ↔ e.isWritable ∧ e.need ≤ limit)
      ∧ ∀ n, e.toClause limit = .error (.depthExceeded n) → n = limit := by
  refine ⟨e.hasClause_iff limit, fun n refused => ?_⟩
  rw [e.toClause_eq_plainClause] at refused
  exact (Expression.plainClause_eq_depthExceeded refused).1

/-- A comparison on the left of a null test has a clause under the limit 2, and under the limit 1 it
is refused with that limit and no other. -/
theorem Expression.exists_toClause_iff_of_nested_left :
    let e := Expression.unary
      (.nested (.binary (.column "a") .equals (.scalar (.text "x")))) .isNull
    e.isWritable ∧ e.need = 2 ∧ (∃ text, e.toClause 2 = .ok text)
      ∧ ∀ n, e.toClause 1 = .error (.depthExceeded n) ↔ n = 1 := by
  intro e
  have writable : e.isWritable := by decide
  have need : e.need = 2 := by decide
  have refused : e.toClause 1 = .error (.depthExceeded 1) := by decide
  refine ⟨writable, need, (exists_toClause_iff 2 e).1.mpr ⟨writable, need.le⟩, fun n => ?_⟩
  constructor
  · intro h
    exact (exists_toClause_iff 1 e).2 n h
  · rintro rfl
    exact refused

end SqlFilter
