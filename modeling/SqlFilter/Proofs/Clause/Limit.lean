import Mathlib.Data.Nat.Find
import SqlFilter.Proofs.Clause.Need
import SqlFilter.Proofs.Clause.Success

/-!
# One expression under two limits

The limit of depth is looked at in one place only, the check in front of an expression. Two runs of
the compiler whose checks are related therefore give related results, whatever the relation, as long
as it is passed on from the steps of a sequence to the whole (`Clause.IsCarried`). The induction
over the expression is done once for all such relations (`Expression.related_plainClause`), and
there are two uses of it.

* **A larger limit.** What is not refused for depth stays as it is (`Expression.toClause_of_le`). So
  every expression has a bound: below it, depth is the reason for refusal, and from it on, the
  result does not change any more. An expression may hold several errors, and which of them is
  reported is settled at the bound, which may lie far below the need of the expression.
* **One level deeper under one limit more.** The result is the same, except that a refusal for depth
  names the other limit (`Expression.plainClause_succ`). This is how the links of a chain are
  compiled.
-/

namespace SqlFilter

/-- The error under another limit of depth. -/
def ClauseError.withLimit (limit : Nat) : ClauseError → ClauseError
  | .depthExceeded _ => .depthExceeded limit
  | other => other

namespace Clause

variable {α β : Type}

/-- The result is a refusal for depth. -/
def IsTooDeep (result : Except ClauseError α) : Prop := ∃ n, result = .error (.depthExceeded n)

theorem not_isTooDeep_iff {result : Except ClauseError α} :
    ¬ IsTooDeep result ↔ ∀ n, result ≠ .error (.depthExceeded n) := not_exists

theorem not_isTooDeep_ok (a : α) : ¬ IsTooDeep (.ok a) :=
  not_isTooDeep_iff.mpr fun n => by simp

theorem IsTooDeep.error_congr {err : ClauseError}
    (h : IsTooDeep (.error err : Except ClauseError α)) :
    IsTooDeep (.error err : Except ClauseError β) := by
  obtain ⟨n, same⟩ := h
  cases same
  exact ⟨n, rfl⟩

/-! ### Relations between results -/

/-- A relation between two runs that the steps of a sequence pass on to the whole, and in which any
result but a refusal for depth stands to itself. -/
structure IsCarried
    (R : ∀ {α : Type}, Except ClauseError α → Except ClauseError α → Prop) : Prop where
  settled : ∀ {α : Type} {x : Except ClauseError α}, ¬ IsTooDeep x → R x x
  bind : ∀ {α β : Type} {x y : Except ClauseError α} {f g : α → Except ClauseError β},
    R x y → (∀ a, R (f a) (g a)) → R (x >>= f) (y >>= g)

theorem IsCarried.ok {R : ∀ {α : Type}, Except ClauseError α → Except ClauseError α → Prop}
    (h : IsCarried R) (a : α) : R (.ok a) (.ok a) :=
  h.settled (not_isTooDeep_ok a)

end Clause

open Clause

section Related

variable {R : ∀ {α : Type}, Except ClauseError α → Except ClauseError α → Prop}
  {limit limit' shift : Nat}

mutual

/-- **Where the checks of the depth are related, so are the results.** The second run may stand some
levels deeper than the first. -/
theorem Expression.related_plainClause (carried : IsCarried R)
    (checks : ∀ depth, R (checkDepth limit depth) (checkDepth limit' (depth + shift)))
    (depth : Nat) (e : Expression) :
    R (e.plainClause limit depth) (e.plainClause limit' (depth + shift)) := by
  cases e with
  | unary left op =>
    rw [Expression.plainClause, Expression.plainClause]
    -- the runs may differ in the check and below; the texts they go on with are the same
    refine carried.bind (checks depth) fun _ => ?_
    refine carried.bind (Term.related_plainLeft carried checks depth op left) fun leftText => ?_
    have flat := carried.settled (not_isTooDeep_iff.mpr (withoutRight_ne_depthExceeded op))
    exact carried.bind flat fun rightText => carried.ok _
  | binary left op right =>
    rw [Expression.plainClause, Expression.plainClause]
    refine carried.bind (checks depth) fun _ => ?_
    refine carried.bind (Term.related_plainLeft carried checks depth op left) fun leftText => ?_
    exact carried.bind (Term.related_plainRight carried checks depth op left right)
      fun rightText => carried.ok _

theorem Term.related_plainLeft (carried : IsCarried R)
    (checks : ∀ depth, R (checkDepth limit depth) (checkDepth limit' (depth + shift)))
    (depth : Nat) (op : Operator) (t : Term) :
    R (t.plainLeft limit depth op) (t.plainLeft limit' (depth + shift) op) := by
  -- a left side that nests nothing knows no depth, so it stands to itself
  have flat := carried.settled (not_isTooDeep_iff.mpr (flatLeft_ne_depthExceeded op t))
  cases t with
  | column | scalar | list => simpa only [Term.plainLeft] using flat
  | nested inner =>
    -- both runs go one level down, and stand as far apart as before
    have below := Expression.related_plainClause carried checks (depth + 1) inner
    rw [Nat.add_right_comm] at below
    rw [Term.plainLeft, Term.plainLeft]
    cases op.family with
    | pattern => exact flat
    | connective | comparison | membership | nullTest =>
      exact carried.bind below fun clause => carried.ok _

theorem Term.related_plainRight (carried : IsCarried R)
    (checks : ∀ depth, R (checkDepth limit depth) (checkDepth limit' (depth + shift)))
    (depth : Nat) (op : Operator) (left right : Term) :
    R (Term.plainRight limit depth op left right)
      (Term.plainRight limit' (depth + shift) op left right) := by
  have flat := carried.settled (not_isTooDeep_iff.mpr (flatRight_ne_depthExceeded op left right))
  cases right with
  | column | scalar | list => simpa only [Term.plainRight] using flat
  | nested inner =>
    -- the right side of a connective is not one level down but at the same depth
    have beside := Expression.related_plainClause carried checks depth inner
    have below := Expression.related_plainClause carried checks (depth + 1) inner
    rw [Nat.add_right_comm] at below
    rw [Term.plainRight, Term.plainRight]
    cases op.family with
    | connective => exact carried.bind beside fun clause => carried.ok _
    | comparison | membership => exact carried.bind below fun clause => carried.ok _
    | pattern | nullTest => exact flat

end

end Related

/-! ### A larger limit -/

namespace Clause

/-- The second result is the first, unless the first is a refusal for depth. -/
theorem isCarried_unless_isTooDeep :
    IsCarried fun {α} (x y : Except ClauseError α) => ¬ IsTooDeep x → y = x where
  settled _ _ := rfl
  bind := by
    intro α β x y f g first next fits
    cases x with
    | error err =>
      -- no refusal for depth, for the whole would be one then, so both runs end here
      have same : y = .error err := first fun deep => fits deep.error_congr
      rw [same]
      rfl
    | ok a =>
      have same : y = .ok a := first (not_isTooDeep_ok a)
      rw [same]
      exact next a fits

/-- A check that a smaller limit passes is passed under a larger one. -/
theorem checkDepth_of_not_isTooDeep {limit limit' : Nat} (h : limit ≤ limit') {depth : Nat}
    (fits : ¬ IsTooDeep (checkDepth limit depth)) :
    checkDepth limit' depth = checkDepth limit depth := by
  rcases Nat.lt_or_ge limit depth with deep | within
  · exact absurd ⟨limit, checkDepth_of_lt deep⟩ fits
  · rw [checkDepth_of_le within, checkDepth_of_le (by omega)]

end Clause

namespace Expression

/-- **A larger limit keeps what is not refused for depth**, be it a clause or another error. -/
theorem toClause_of_le {limit limit' : Nat} (h : limit ≤ limit') {e : Expression}
    (fits : ¬ IsTooDeep (e.toClause limit)) : e.toClause limit' = e.toClause limit := by
  rw [e.toClause_eq_plainClause] at fits
  rw [e.toClause_eq_plainClause, e.toClause_eq_plainClause]
  have checks : ∀ depth, ¬ IsTooDeep (checkDepth limit depth) →
      checkDepth limit' (depth + 0) = checkDepth limit depth :=
    fun depth => checkDepth_of_not_isTooDeep h
  exact related_plainClause isCarried_unless_isTooDeep checks 1 e fits

/-- A refusal for depth names the limit. -/
theorem toClause_of_isTooDeep {limit : Nat} {e : Expression} (h : IsTooDeep (e.toClause limit)) :
    e.toClause limit = .error (.depthExceeded limit) := by
  obtain ⟨n, refused⟩ := h
  -- what refuses for depth is the check, and it names the limit it was given
  have compiled := e.toClause_eq_plainClause limit
  rw [refused] at compiled ⊢
  rw [(plainClause_eq_depthExceeded compiled.symm).1]

end Expression

/-! ### One level deeper under one limit more -/

namespace Clause

/-- The second result is the first, with another limit in a refusal for depth. -/
theorem isCarried_withLimit (limit : Nat) :
    IsCarried fun {α} (x y : Except ClauseError α) => y = x.mapError (·.withLimit limit) where
  settled := by
    intro α x fits
    cases x with
    | ok a => rfl
    | error err =>
      cases err with
      | depthExceeded n => exact absurd ⟨n, rfl⟩ fits
      | missingRight | invalidLeft | unexpectedRight | expectedList | expectedText => rfl
  -- an error ends both runs, and a value leads on to what follows
  bind := by
    rintro α β x y f g rfl next
    cases x with
    | error err => rfl
    | ok a => exact next a

theorem checkDepth_succ (limit depth : Nat) :
    checkDepth (limit + 1) (depth + 1)
      = (checkDepth limit depth).mapError (·.withLimit (limit + 1)) := by
  rcases Nat.lt_or_ge limit depth with deep | within
  · rw [checkDepth_of_lt deep, checkDepth_of_lt (by omega)]
    rfl
  · rw [checkDepth_of_le within, checkDepth_of_le (by omega)]
    rfl

end Clause

namespace Expression

/-- **One level deeper under one limit more**, the result is the same. -/
theorem plainClause_succ (limit depth : Nat) (e : Expression) :
    e.plainClause (limit + 1) (depth + 1)
      = (e.plainClause limit depth).mapError (·.withLimit (limit + 1)) :=
  related_plainClause (isCarried_withLimit (limit + 1)) (checkDepth_succ limit) depth e

/-- The second level is the first one under one limit less. Where there is no limit left, both are
too deep. -/
theorem plainClause_two (limit : Nat) (e : Expression) :
    e.plainClause limit 2 = (e.toClause (limit - 1)).mapError (·.withLimit limit) := by
  rw [e.toClause_eq_plainClause]
  cases limit with
  | zero => cases e <;> rfl
  | succ limit => exact plainClause_succ limit 1 e

end Expression

/-! ### The least limit -/

namespace Clause

instance (result : Except ClauseError α) : Decidable (IsTooDeep result) :=
  match result with
  | .error (.depthExceeded n) => .isTrue ⟨n, rfl⟩
  | .ok a => .isFalse (not_isTooDeep_ok a)
  | .error (.missingRight _) | .error (.invalidLeft _ _) | .error (.unexpectedRight _ _)
  | .error (.expectedList _ _) | .error (.expectedText _ _) =>
    .isFalse fun deep => by
      obtain ⟨n, same⟩ := deep
      cases same

end Clause

namespace Expression

/-- The need is enough. -/
theorem exists_not_isTooDeep (e : Expression) : ∃ limit, ¬ IsTooDeep (e.toClause limit) :=
  ⟨e.need, not_isTooDeep_iff.mpr (toClause_ne_depthExceeded (Nat.le_refl e.need))⟩

/-- **The least limit** under which depth is not the reason for refusal. -/
def leastLimit (e : Expression) : Nat := Nat.find e.exists_not_isTooDeep

theorem leastLimit_le_iff {e : Expression} {limit : Nat} :
    e.leastLimit ≤ limit ↔ ¬ IsTooDeep (e.toClause limit) := by
  constructor
  · intro above
    have fits := Nat.find_spec e.exists_not_isTooDeep
    rw [toClause_of_le above fits]
    exact fits
  · exact Nat.find_min' e.exists_not_isTooDeep

/-- **It is the need**, if there is a clause at all. -/
theorem leastLimit_eq_need {e : Expression} {limit : Nat} {text : String}
    (h : e.toClause limit = .ok text) : e.leastLimit = e.need := by
  refine Nat.le_antisymm ?_ ?_
  · exact leastLimit_le_iff.mpr (not_isTooDeep_iff.mpr (toClause_ne_depthExceeded le_rfl))
  · -- the clause is there from the least limit on, where the compiler looks at the need
    have fits := leastLimit_le_iff.mp (Nat.le_refl e.leastLimit)
    have within : e.leastLimit ≤ limit := leastLimit_le_iff.mpr (h ▸ not_isTooDeep_ok text)
    have found : e.plainClause e.leastLimit 1 = .ok text := by
      rw [← e.toClause_eq_plainClause, ← toClause_of_le within fits, h]
    have enough := (e.exists_plainClause_iff e.leastLimit 1).mp ⟨text, found⟩
    omega

end Expression

/-! ### The bound -/

/-- **Raising the limit only removes refusals for depth.** What is not refused for depth under some
limit stays the same under every larger one. So there is a bound, at most the depth of the tree,
below which every limit leads to a refusal for depth, and from which on the result is the same for
all limits, and no refusal for depth. -/
theorem Expression.toClause_settles (e : Expression) :
    (∀ limit limit', limit ≤ limit' → ¬ IsTooDeep (e.toClause limit) →
      e.toClause limit' = e.toClause limit)
    ∧ ∃ bound ≤ max 1 e.depth,
        (∀ limit < bound, e.toClause limit = .error (.depthExceeded limit))
        ∧ ∀ limit ≥ bound, ¬ IsTooDeep (e.toClause limit)
          ∧ e.toClause limit = e.toClause bound := by
  have fits : ¬ IsTooDeep (e.toClause e.leastLimit) := leastLimit_le_iff.mp (Nat.le_refl _)
  have within : ¬ IsTooDeep (e.toClause e.need) :=
    not_isTooDeep_iff.mpr (toClause_ne_depthExceeded (Nat.le_refl e.need))
  -- the bound is the least limit under which depth is not the reason for refusal
  refine ⟨fun limit limit' h fits => toClause_of_le h fits, e.leastLimit, ?_, ?_, ?_⟩
  · calc e.leastLimit ≤ e.need := leastLimit_le_iff.mpr within
      _ ≤ e.depth := e.need_le_depth
      _ ≤ max 1 e.depth := Nat.le_max_right 1 e.depth
  · intro limit below
    refine toClause_of_isTooDeep (not_not.mp fun fits => ?_)
    exact absurd (leastLimit_le_iff.mpr fits) (Nat.not_le.mpr below)
  · intro limit above
    -- at the bound depth is not the reason, and what it gives there is kept
    have same := toClause_of_le above fits
    exact ⟨same ▸ fits, same⟩

/-- A comparison without a right term in front of tests that need a depth of 3. Under the limit 1
neither side is reached. From the limit 2 on it is the missing term that is reported, although under
the limit 2 the tests would be too deep. -/
theorem Expression.toClause_settles_of_two_errors :
    let e := Expression.binary (.nested (.unary (.column "a") .equals)) .and
      (.nested (.unary (.nested (.unary (.nested (isNull "b")) .isNull)) .isNull))
    e.need = 3 ∧ e.toClause 1 = .error (.depthExceeded 1) ∧
      ∀ limit ≥ 2, e.toClause limit = .error (.missingRight .equals) := by
  intro e
  have need : e.need = 3 := by decide
  have refused : e.toClause 1 = .error (.depthExceeded 1) := by decide
  have missing : e.toClause 2 = .error (.missingRight .equals) := by decide
  refine ⟨need, refused, fun limit above => ?_⟩
  have fits : ¬ IsTooDeep (e.toClause 2) := not_isTooDeep_iff.mpr fun n => by simp [missing]
  rw [(toClause_settles e).1 2 limit above fits, missing]

end SqlFilter
