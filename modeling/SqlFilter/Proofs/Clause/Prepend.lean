import Mathlib.Data.List.MinMax
import SqlFilter.Proofs.Clause.Chain

/-!
# Conditions put in front

A filter often grows from its front: conditions are prepended to an expression, one after another,
as a whole or by their parts. `Prepending.runAll` does so in the expression's own place, where a
placeholder stands in for it meanwhile; `Expression.prependAll` makes a new expression each time.
The two give the same tree (`Prepending.run_runAll`). With one joiner all along, it is also the
chain of the conditions, the last of them first, with the expression at the end.

However many conditions there are, they cost one level of depth. What the least limit of the whole
needs is that of the expression, and one more than that of each condition
(`Expression.leastLimit_prependAll_le`), as follows from what one joiner does
(`Expression.leastLimit_join_le`). Nothing is asked of the conditions, which may have no clause
themselves.
-/

namespace SqlFilter

/-! ### In place -/

/-- **In its own place an expression becomes what it would become anywhere.** -/
theorem Prepending.run_runAll (prependings : List Prepending) (e : Expression) :
    (runAll prependings).run e
      = ((), e.prependAll (prependings.map fun p => (p.joiner, p.condition))) := by
  induction prependings generalizing e with
  | nil => rfl
  -- the placeholder is gone again after each step, so one step is like the next
  | cons p prependings ih => exact ih (e.prepend p.joiner p.condition)

/-! ### The least limit -/

namespace Clause

variable {α β : Type}

theorem not_isTooDeep_bind {x : Except ClauseError α} {f : α → Except ClauseError β}
    (first : ¬ IsTooDeep x) (next : ∀ a, ¬ IsTooDeep (f a)) : ¬ IsTooDeep (x >>= f) := by
  cases x with
  | error err => exact fun deep => first deep.error_congr
  | ok a => exact next a

/-- Another limit in the error does not make it a refusal for depth. -/
theorem IsTooDeep.of_mapError {x : Except ClauseError α} {limit : Nat}
    (h : IsTooDeep (x.mapError (·.withLimit limit))) : IsTooDeep x := by
  obtain ⟨n, h⟩ := h
  cases x with
  | ok a => cases h
  | error err =>
    cases err with
    | depthExceeded m => exact ⟨m, rfl⟩
    | missingRight | invalidLeft | unexpectedRight | expectedList | expectedText => cases h

end Clause

open Clause

namespace Expression

/-- **What one joiner needs**: a level more for the link in front, and none for the rest. -/
theorem leastLimit_join_le (link : Expression) (joiner : Joiner) (chain : Expression) :
    (join link joiner chain).leastLimit ≤ max (1 + link.leastLimit) chain.leastLimit := by
  -- the link in front is compiled a level deeper, and the rest at the level of the whole
  rw [leastLimit_le_iff, toClause_join]
  have front := leastLimit_le_iff.mp
    (show link.leastLimit ≤ max (1 + link.leastLimit) chain.leastLimit - 1 by omega)
  have behind := leastLimit_le_iff.mp (Nat.le_max_right (1 + link.leastLimit) chain.leastLimit)
  refine not_isTooDeep_bind (fun deep => front deep.of_mapError) fun first => ?_
  exact not_isTooDeep_bind behind fun others => not_isTooDeep_ok _

/-- **All conditions together cost one level.** -/
theorem leastLimit_prependAll_le {e : Expression} {conditions : List (Joiner × Expression)}
    {limit : Nat} (here : e.leastLimit ≤ limit)
    (front : ∀ p ∈ conditions, 1 + p.2.leastLimit ≤ limit) :
    (e.prependAll conditions).leastLimit ≤ limit := by
  induction conditions generalizing e with
  | nil => exact here
  | cons p conditions ih =>
    obtain ⟨first, others⟩ := List.forall_mem_cons.mp front
    -- the expression so far is the rest of the new one, which the condition does not push deeper
    have joined := leastLimit_join_le p.2 p.1 e
    exact ih (e := e.prepend p.1 p.2) (joined.trans (Nat.max_le.mpr ⟨first, here⟩)) others

/-! ### The account -/

/-- **Prepending in place, prepending anew, and chains agree.**

* Conditions put in front of an expression in its own place give the same tree as new expressions
  do.
* The tree needs no more depth than the expression, and one level more than the conditions, however
  many there are.
* If all joiners are the same, it is the chain of the conditions in reverse and the expression.
* A chain whose last link is a chain of the same joiner is the chain of all links. -/
theorem prepending_agrees (e : Expression) (prependings : List Prepending) :
    let whole := e.prependAll (prependings.map fun p => (p.joiner, p.condition))
    (Prepending.runAll prependings).run e = ((), whole)
      ∧ whole.leastLimit
          ≤ max e.leastLimit ((prependings.map fun p => 1 + p.condition.leastLimit).foldr max 0)
      ∧ (∀ joiner, (∀ p ∈ prependings, p.joiner = joiner) →
          fold ((prependings.map Prepending.condition).reverse ++ [e]) joiner = some whole)
      ∧ ∀ links others joiner, others ≠ [] → ∃ inner, fold others joiner = some inner
          ∧ fold (links ++ [inner]) joiner = fold (links ++ others) joiner := by
  intro whole
  refine ⟨Prepending.run_runAll prependings e, ?_, ?_, ?_⟩
  · refine leastLimit_prependAll_le (Nat.le_max_left _ _) fun p hp => ?_
    obtain ⟨prepending, mem, rfl⟩ := List.mem_map.mp hp
    exact le_max_of_le_right (List.le_max_of_le' 0 (List.mem_map_of_mem mem) le_rfl)
  · intro joiner same
    -- with one joiner throughout, what is prepended are the conditions, each with this joiner
    have joined : prependings.map (fun p => (p.joiner, p.condition))
        = (prependings.map Prepending.condition).map (joiner, ·) := by
      rw [List.map_map]
      refine List.map_congr_left fun p hp => ?_
      rw [same p hp]
      rfl
    rw [fold_concat, ← prependAll_eq_chainTo, ← joined]
  · intro links others joiner nonempty
    -- a fold with a link has a result, which takes the place of its links
    obtain ⟨last, rest, rfl⟩ := List.exists_cons_of_ne_nil nonempty
    have inner := fold_cons last rest joiner
    exact ⟨_, inner, fold_concat_fold inner links⟩

/-- Two conditions in front of a null test, one of them given by its parts and with a test of its
own nested in it. The chain of them has the limit 3, as it would with any number of conditions. -/
theorem prepending_agrees_of_two :
    let e := isNull "a"
    let deep := unary (.nested (isNull "b")) .isNotNull
    let prependings := [Prepending.whole .or deep,
      .parts .or (.column "c") .equals (.scalar (.text "x"))]
    let chain := or (eq "c" (.text "x")) (or deep e)
    (Prepending.runAll prependings).run e = ((), chain)
      ∧ chain.leastLimit ≤ 3
      ∧ (∀ p ∈ prependings, p.joiner = .or)
      ∧ fold [eq "c" (.text "x"), deep, e] .or = some chain
      ∧ ∃ inner, fold [deep, e] .or = some inner
        ∧ fold [eq "c" (.text "x"), inner] .or = some chain := by
  intro e deep prependings chain
  obtain ⟨inPlace, depth, chained, nested⟩ := prepending_agrees e prependings
  have joiners : ∀ p ∈ prependings, p.joiner = .or := by simp [prependings, Prepending.joiner]
  have whole : fold [eq "c" (.text "x"), deep, e] .or = some chain := chained .or joiners
  obtain ⟨inner, built, same⟩ := nested [eq "c" (.text "x")] [deep, e] .or (by simp)
  -- a clause under a limit that is enough tells the least one
  have limits : e.leastLimit = 1 ∧ deep.leastLimit = 2
      ∧ (eq "c" (.text "x")).leastLimit = 1 := by
    have test : e.toClause 2 = .ok "(a  IS NULL)" := by decide
    have tests : deep.toClause 2 = .ok "((b  IS NULL)  IS NOT NULL)" := by decide
    have comparison : (eq "c" (.text "x")).toClause 2 = .ok "(c = 'x')" := by decide
    rw [leastLimit_eq_need test, leastLimit_eq_need tests, leastLimit_eq_need comparison]
    decide
  refine ⟨inPlace, ?_, joiners, whole, inner, built, same.trans whole⟩
  have bound : chain.leastLimit ≤ max e.leastLimit
      (max (1 + deep.leastLimit) (max (1 + (eq "c" (.text "x")).leastLimit) 0)) := depth
  rw [limits.1, limits.2.1, limits.2.2] at bound
  exact bound

end Expression

end SqlFilter
