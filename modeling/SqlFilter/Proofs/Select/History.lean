import Mathlib.Data.List.Induction
import SqlFilter.Proofs.Expression.Chain
import SqlFilter.Proofs.Result
import SqlFilter.Select.History

/-!
# What a statement remembers of its history

A statement is built one step at a time, and `Select.ofHistory` reads it off the series of steps as
a whole. The two agree (`Select.applyAll_ofTable`): one step more changes the history's statement as
it changes a statement (`Select.ofHistory_append`), and the rest is an induction on the steps.

The history's statement looks at the steps on one part at a time, so nothing but the order of these
matters (`Select.ofHistory_congr`). `filter` and `andFilter` are on the same part, and their order
does matter.
-/

namespace SqlFilter

namespace Select

/-! ### One step more -/

theorem last?_append {α : Type} (argument? : Step → Option α) (steps : List Step) (step : Step) :
    last? argument? (steps ++ [step]) = (argument? step).or (last? argument? steps) := by
  rw [last?, last?, List.reverse_append, List.reverse_singleton, List.singleton_append,
    List.findSome?_cons]
  -- the latest step is asked first
  cases argument? step <;> rfl

theorem conditions_append (steps : List Step) (step : Step) :
    conditions (steps ++ [step])
      = if step.filter?.isNone then step.condition?.toList ++ conditions steps else [] := by
  rw [conditions, conditions, List.reverse_append, List.reverse_singleton, List.singleton_append,
    List.takeWhile_cons]
  -- the conditions go back to the filter that was set last, and no further
  split
  · rw [List.filterMap_cons]
    cases step.condition? <;> rfl
  · rfl

/-- **The filter after one step more**: one that is set replaces what there was, and a condition is
put in front of it. -/
theorem filterOf_append (steps : List Step) (step : Step) :
    filterOf (steps ++ [step]) = match step with
      | .filter e => some e
      | .andFilter condition => some (match filterOf steps with
        | some e => e.prepend .and condition
        | none => condition)
      | _ => filterOf steps := by
  rw [filterOf, conditions_append, last?_append]
  cases step with
  | filter e => rfl
  | andFilter condition =>
    -- the filter ends the fold, so a condition more is one more in front
    exact Expression.fold_cons_eq_prepend condition
      (conditions steps ++ (last? Step.filter? steps).toList) .and
  | columns | orderBy | limit | offset => rfl

/-- **One step more** changes the statement of a history as it changes any statement. -/
theorem ofHistory_append (table : String) (steps : List Step) (step : Step) :
    ofHistory table (steps ++ [step]) = (ofHistory table steps).apply step := by
  -- each part of the statement is looked up on its own
  simp only [ofHistory, last?_append, filterOf_append]
  cases step <;> rfl

/-- **A statement is that of its history.** -/
theorem applyAll_ofTable (table : String) (steps : List Step) :
    (ofTable table).applyAll steps = ofHistory table steps := by
  induction steps using List.reverseRecOn with
  | nil => rfl
  | append_singleton steps step ih =>
    -- the induction takes the steps from the end, as the history is read
    rw [ofHistory_append, ← ih, applyAll, List.foldl_append]
    rfl

/-! ### The order of steps -/

/-- The steps on one part. -/
def stepsOn (part : Part) (steps : List Step) : List Step :=
  steps.filter fun step => step.part = part

theorem stepsOn_append (part : Part) (steps : List Step) (step : Step) :
    stepsOn part (steps ++ [step])
      = if step.part = part then stepsOn part steps ++ [step] else stepsOn part steps := by
  simp only [stepsOn, List.filter_append, List.filter_cons, List.filter_nil, decide_eq_true_eq]
  split
  · rfl
  · rw [List.append_nil]

/-- A step has no argument for a part that it is not on. -/
theorem Step.no_argument_off_part (step : Step) :
    (step.part ≠ .columns → step.columns? = none) ∧
    (step.part ≠ .filter → step.filter? = none ∧ step.condition? = none) ∧
    (step.part ≠ .order → step.order? = none) ∧
    (step.part ≠ .limit → step.limit? = none) ∧
    (step.part ≠ .offset → step.offset? = none) := by
  cases step <;> simp [part, columns?, filter?, condition?, order?, limit?, offset?]

/-- The last argument is found among the steps on the part that it is for. -/
theorem last?_stepsOn {α : Type} {argument? : Step → Option α} {part : Part}
    (only : ∀ step, step.part ≠ part → argument? step = none) (steps : List Step) :
    last? argument? (stepsOn part steps) = last? argument? steps := by
  induction steps using List.reverseRecOn with
  | nil => rfl
  | append_singleton steps step ih =>
    rw [stepsOn_append, last?_append]
    split
    · rw [last?_append, ih]
    · next off => rw [ih, only step off, Option.none_or]

theorem conditions_stepsOn (steps : List Step) :
    conditions (stepsOn .filter steps) = conditions steps := by
  induction steps using List.reverseRecOn with
  | nil => rfl
  | append_singleton steps step ih =>
    rw [stepsOn_append, conditions_append]
    split
    · rw [conditions_append, ih]
    · next off =>
      obtain ⟨noFilter, noCondition⟩ := step.no_argument_off_part.2.1 off
      rw [ih, noFilter, noCondition]
      rfl

/-- **Only the order of the steps on each part matters.** -/
theorem ofHistory_congr (table : String) {steps others : List Step}
    (same : ∀ part, stepsOn part steps = stepsOn part others) :
    ofHistory table steps = ofHistory table others := by
  -- the steps on a part tell its last argument, and those on the filter its conditions
  have last {α : Type} {argument? : Step → Option α} {part : Part}
      (only : ∀ step, step.part ≠ part → argument? step = none) :
      last? argument? steps = last? argument? others := by
    rw [← last?_stepsOn only steps, same part, last?_stepsOn only others]
  have conditions : conditions steps = conditions others := by
    rw [← conditions_stepsOn steps, same .filter, conditions_stepsOn others]
  have columns := last fun step => step.no_argument_off_part.1
  have filter := last fun step on => (step.no_argument_off_part.2.1 on).1
  have order := last fun step => step.no_argument_off_part.2.2.1
  have limit := last fun step => step.no_argument_off_part.2.2.2.1
  have offset := last fun step => step.no_argument_off_part.2.2.2.2
  simp only [ofHistory, filterOf, conditions, columns, filter, order, limit, offset]

/-- Two steps on different parts, one after the other, are in the same order on each part as the
other way round. -/
theorem stepsOn_swap {a b : Step} (different : a.part ≠ b.part) (before after : List Step)
    (part : Part) :
    stepsOn part (before ++ a :: b :: after) = stepsOn part (before ++ b :: a :: after) := by
  -- no part keeps both of the steps
  simp only [stepsOn, List.filter_append, List.filter_cons, decide_eq_true_eq]
  by_cases first : a.part = part
  · have second : b.part ≠ part := fun second => different (first.trans second.symm)
    rw [if_pos first, if_neg second, if_neg second, if_pos first]
  · rw [if_neg first, if_neg first]

/-! ### The text -/

/-- **A statement fails as its filter does**, and for no other reason. -/
theorem toSql_eq_error_iff {limit : Nat} {s : Select} {err : ClauseError} :
    s.toSql limit = .error err ↔ ∃ e, s.filter = some e ∧ e.toClause limit = .error err := by
  rw [toSql]
  cases s.filter with
  | none => simp [whereText]
  | some e =>
    rw [whereText]
    cases compiled : e.toClause limit <;> simp [compiled]

/-- A statement has a text exactly if its filter has a clause. -/
theorem exists_toSql_iff {limit : Nat} {s : Select} :
    (∃ text, s.toSql limit = .ok text)
      ↔ ∀ e, s.filter = some e → ∃ clause, e.toClause limit = .ok clause := by
  rw [toSql]
  cases s.filter with
  | none => simp [whereText]
  | some e =>
    rw [whereText]
    cases compiled : e.toClause limit <;> simp [compiled]

/-- **What the text of a statement depends on**: the last step on each part, and for the filter the
conditions added since the last one was set, the latest first. It is refused exactly if that filter
has no clause, with the same error. Steps on different parts can change places anywhere in the
series. -/
theorem toSql_applyAll (table : String) (steps : List Step) (limit : Nat) :
    ((ofTable table).applyAll steps).toSql limit = (ofHistory table steps).toSql limit ∧
    (∀ err, ((ofTable table).applyAll steps).toSql limit = .error err ↔
      ∃ e, filterOf steps = some e ∧ e.toClause limit = .error err) ∧
    ∀ before a b after, steps = before ++ a :: b :: after → a.part ≠ b.part →
      ((ofTable table).applyAll (before ++ b :: a :: after)).toSql limit
        = ((ofTable table).applyAll steps).toSql limit := by
  refine ⟨by rw [applyAll_ofTable], fun err => ?_, ?_⟩
  · rw [applyAll_ofTable]
    exact toSql_eq_error_iff
  · rintro before a b after rfl different
    rw [applyAll_ofTable, applyAll_ofTable,
      ofHistory_congr table (stepsOn_swap different before after)]

/-- A limit changes places with a condition, and with too little depth the statement is refused as
its filter is. -/
theorem toSql_applyAll_of_swap :
    let a := Expression.isNull "a"
    let b := Expression.isNull "b"
    let steps : List Step := [.filter a, .limit 5, .andFilter b, .andFilter a, .limit 7]
    ((ofTable "t").applyAll steps).toSql 2
        = .ok "SELECT * FROM t WHERE ((a  IS NULL) AND ((b  IS NULL) AND (a  IS NULL))) LIMIT 7" ∧
      ((ofTable "t").applyAll [.filter a, .andFilter b, .limit 5, .andFilter a, .limit 7]).toSql 2
        = ((ofTable "t").applyAll steps).toSql 2 ∧
      ((ofTable "t").applyAll steps).toSql 1 = .error (.depthExceeded 1) := by
  intro a b steps
  have text : ((ofTable "t").applyAll steps).toSql 2
      = .ok "SELECT * FROM t WHERE ((a  IS NULL) AND ((b  IS NULL) AND (a  IS NULL))) LIMIT 7" := by
    decide
  have swapped := (toSql_applyAll "t" steps 2).2.2 [.filter a] (.limit 5) (.andFilter b)
    [.andFilter a, .limit 7] rfl (by decide)
  have refused := ((toSql_applyAll "t" steps 1).2.1 (.depthExceeded 1)).mpr
    ⟨_, rfl, by decide⟩
  exact ⟨text, swapped, refused⟩

end Select

end SqlFilter
