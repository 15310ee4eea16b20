import SqlFilter.Proofs.Clause.Limit

/-!
# The clause of a chain

The clause of a chain is made of the clauses of its links (`Expression.toClause_fold`). They stand
in their order, each but the last behind an opening parenthesis and before the keyword, and the
parentheses are closed together at the end (`Clause.chainText`).

The last link has the limit of the chain for itself and all others have one less, so the length of a
chain does not count. The chain is refused with the error of the first link that is refused under
its own limit, and a refusal for depth names the limit of the chain.

All of this follows from what one joiner does (`Expression.toClause_join`), by induction over the
links in front of the last one.
-/

namespace SqlFilter

/-- The error of a compilation names its own limit. -/
theorem ClauseError.withLimit_of_toClause {limit : Nat} {e : Expression} {err : ClauseError}
    (h : e.toClause limit = .error err) : err.withLimit limit = err := by
  -- only a refusal for depth has a limit to name
  cases err with
  | depthExceeded n =>
    have own := Expression.toClause_of_isTooDeep ⟨n, h⟩
    rw [h] at own
    exact Except.error.inj own.symm
  | missingRight | invalidLeft | unexpectedRight | expectedList | expectedText => rfl

namespace Clause

/-- **The text of a chain**: the clauses in their order, each but the last behind a parenthesis and
before the keyword, and the closing parentheses together at the end. -/
def chainText (joiner : Joiner) (clauses : List String) (last : String) : String :=
  close (String.join (clauses.map fun clause => "(" ++ clause ++ " " ++ joiner.operator.keyword)
    ++ last) clauses.length

@[simp] theorem chainText_nil (joiner : Joiner) (last : String) :
    chainText joiner [] last = last := by
  simp [chainText]

/-- The first link has the chain of the others behind its keyword, and closes its parenthesis
behind them. -/
theorem chainText_cons (joiner : Joiner) (clause : String) (clauses : List String)
    (last : String) :
    chainText joiner (clause :: clauses) last
      = "(" ++ clause ++ " " ++ joiner.operator.keyword ++ chainText joiner clauses last
        ++ ")" := by
  -- the parenthesis of the first link is closed last
  rw [chainText, chainText, ← String.toList_inj]
  simp [close, List.replicate_succ']

/-- The limit under which a link is compiled by itself, by the links behind it: the last one has
the limit of the chain, and all others stand one level below. -/
def linkLimit (limit : Nat) (behind : List Expression) : Nat :=
  if behind.isEmpty then limit else limit - 1

end Clause

open Clause

namespace Expression

/-- **The clause of two expressions joined.** The left one stands one level deeper, the right one
does not. -/
theorem toClause_join (limit : Nat) (joiner : Joiner) (link chain : Expression) :
    (join link joiner chain).toClause limit = (do
      let first ← (link.toClause (limit - 1)).mapError (·.withLimit limit)
      let others ← chain.toClause limit
      .ok ("(" ++ first ++ " " ++ joiner.operator.keyword ++ others ++ ")")) := by
  -- the joiner's left side is the second level, and its right side is on the first one
  rw [← plainClause_two, toClause_eq_plainClause, toClause_eq_plainClause, join, plainClause,
    Term.plainLeft, Term.plainRight, joiner.family_operator]
  cases limit with
  | zero =>
    -- the chain itself is too deep, and so is its first link
    cases link <;> rfl
  | succ limit =>
    rw [checkDepth_of_le (by omega)]
    simp only [ok_bind, bind_assoc, String.append_assoc]

/-! ### What one link does -/

theorem toClause_join_ok {limit : Nat} {joiner : Joiner} {link chain : Expression}
    {first others : String} (hlink : link.toClause (limit - 1) = .ok first)
    (hchain : chain.toClause limit = .ok others) :
    (join link joiner chain).toClause limit
      = .ok ("(" ++ first ++ " " ++ joiner.operator.keyword ++ others ++ ")") := by
  rw [toClause_join, hlink, hchain]
  rfl

theorem exists_toClause_join_iff (limit : Nat) (joiner : Joiner) (link chain : Expression) :
    (∃ text, (join link joiner chain).toClause limit = .ok text)
      ↔ (∃ text, link.toClause (limit - 1) = .ok text)
        ∧ ∃ text, chain.toClause limit = .ok text := by
  constructor
  · rintro ⟨text, h⟩
    rw [toClause_join] at h
    -- each of the two has been compiled on the way, the first with its own limit
    obtain ⟨first, hlink, h⟩ := bind_eq_ok.mp h
    obtain ⟨others, hchain, -⟩ := bind_eq_ok.mp h
    exact ⟨⟨first, mapError_eq_ok.mp hlink⟩, others, hchain⟩
  · rintro ⟨⟨first, hlink⟩, others, hchain⟩
    exact ⟨_, toClause_join_ok hlink hchain⟩

theorem toClause_join_error {limit : Nat} {joiner : Joiner} {link chain : Expression}
    {err : ClauseError} (h : link.toClause (limit - 1) = .error err) :
    (join link joiner chain).toClause limit = .error (err.withLimit limit) := by
  rw [toClause_join, h]
  rfl

theorem toClause_join_error_of_chain {limit : Nat} {joiner : Joiner} {link chain : Expression}
    {first : String} {err : ClauseError} (hlink : link.toClause (limit - 1) = .ok first)
    (hchain : chain.toClause limit = .error err) :
    (join link joiner chain).toClause limit = .error err := by
  rw [toClause_join, hlink, hchain]
  rfl

/-! ### What all links do -/

variable {joiner : Joiner} {limit : Nat} {before : List Expression} {last : Expression}

theorem exists_toClause_chainTo_iff (limit : Nat) (joiner : Joiner) (last : Expression)
    (before : List Expression) :
    (∃ text, (chainTo joiner last before).toClause limit = .ok text)
      ↔ (∀ link ∈ before, ∃ text, link.toClause (limit - 1) = .ok text)
        ∧ ∃ text, last.toClause limit = .ok text := by
  induction before with
  | nil => simp [chainTo]
  | cons link before ih =>
    -- one link more is one condition more
    rw [chainTo, exists_toClause_join_iff, ih, List.forall_mem_cons, and_assoc]

theorem toClause_chainTo_ok {clauses : List String} {final : String}
    (hbefore : List.Forall₂ (fun link clause => link.toClause (limit - 1) = .ok clause)
      before clauses)
    (hlast : last.toClause limit = .ok final) :
    (chainTo joiner last before).toClause limit = .ok (chainText joiner clauses final) := by
  induction hbefore with
  | nil => rw [chainTo, hlast, chainText_nil]
  | cons hlink _ ih => rw [chainTo, toClause_join_ok hlink ih, chainText_cons]

theorem toClause_chainTo_error {passed behind : List Expression} {failing : Expression}
    {err : ClauseError} (whole : before ++ [last] = passed ++ failing :: behind)
    (hpassed : ∀ link ∈ passed, ∃ text, link.toClause (limit - 1) = .ok text)
    (hfailing : failing.toClause (linkLimit limit behind) = .error err) :
    (chainTo joiner last before).toClause limit = .error (err.withLimit limit) := by
  -- along the links that pass; what is left of the chain starts with the one that fails
  induction passed generalizing before with
  | nil =>
    cases before with
    | nil =>
      obtain ⟨rfl, rfl⟩ : last = failing ∧ behind = [] := by simpa using whole
      -- the last link has the limit of the chain, which its error names already
      have own : last.toClause limit = .error err := hfailing
      rw [chainTo, ClauseError.withLimit_of_toClause own, own]
    | cons link before =>
      obtain ⟨rfl, rfl⟩ : link = failing ∧ before ++ [last] = behind := by simpa using whole
      exact toClause_join_error (by simpa [linkLimit] using hfailing)
  | cons first passed ih =>
    -- the chain of the others fails, and its error is the error of the whole
    cases before with
    | nil => simp at whole
    | cons link before =>
      obtain ⟨rfl, rest⟩ : link = first ∧ before ++ [last] = passed ++ failing :: behind := by
        simpa using whole
      obtain ⟨⟨text, hlink⟩, others⟩ := List.forall_mem_cons.mp hpassed
      exact toClause_join_error_of_chain hlink (ih rest others)

/-! ### The account -/

/-- **The clause of a chain**, of any number of links, whatever they are.

* There is one exactly if the last link has a clause under the limit of the chain, and all others
  have one under one limit less.
* It is then made of the clauses of the links.
* Otherwise the error is that of the first link that has none, and a refusal for depth names the
  limit of the chain. -/
theorem toClause_fold (before : List Expression) (last : Expression) (joiner : Joiner)
    (limit : Nat) :
    ∃ e, fold (before ++ [last]) joiner = some e
      ∧ ((∃ text, e.toClause limit = .ok text)
          ↔ (∀ link ∈ before, ∃ text, link.toClause (limit - 1) = .ok text)
            ∧ ∃ text, last.toClause limit = .ok text)
      ∧ (∀ clauses final,
          List.Forall₂ (fun link clause => link.toClause (limit - 1) = .ok clause) before clauses →
          last.toClause limit = .ok final →
          e.toClause limit = .ok (chainText joiner clauses final))
      ∧ ∀ passed failing behind err, before ++ [last] = passed ++ failing :: behind →
          (∀ link ∈ passed, ∃ text, link.toClause (limit - 1) = .ok text) →
          failing.toClause (linkLimit limit behind) = .error err →
          e.toClause limit = .error (err.withLimit limit) :=
  ⟨chainTo joiner last before, fold_concat before last joiner,
    exists_toClause_chainTo_iff limit joiner last before,
    fun _ _ hbefore hlast => toClause_chainTo_ok hbefore hlast,
    fun _ _ _ _ whole hpassed hfailing => toClause_chainTo_error whole hpassed hfailing⟩

/-- A chain that ends with a chain of another joiner. Under the limit 3 its first link has a clause;
under the limit 2 it is too deep, which under its own limit would be a depth of 1 exceeded. -/
theorem toClause_fold_of_three :
    let deep := unary (.nested (isNull "a")) .isNull
    let last := or (eq "b" (.text "x")) (isNull "c")
    ∃ e, fold [deep, isIn "d" [.int 1, .int 2], last] .and = some e
      ∧ e.toClause 3 = .ok ("(((a  IS NULL)  IS NULL) AND "
          ++ "((d  IN ('1','2')) AND ((b = 'x') OR (c  IS NULL))))")
      ∧ e.toClause 2 = .error (.depthExceeded 2) := by
  intro deep last
  obtain ⟨e, built, -, text, -⟩ := toClause_fold [deep, isIn "d" [.int 1, .int 2]] last .and 3
  obtain ⟨e', built', -, -, error⟩ := toClause_fold [deep, isIn "d" [.int 1, .int 2]] last .and 2
  obtain rfl : e = e' := Option.some.inj (built.symm.trans built')
  have clauses : List.Forall₂ (fun link clause => Expression.toClause (3 - 1) link = .ok clause)
      [deep, isIn "d" [.int 1, .int 2]] ["((a  IS NULL)  IS NULL)", "(d  IN ('1','2'))"] :=
    .cons (by decide) (.cons (by decide) .nil)
  refine ⟨e, built, ?_, ?_⟩
  · -- the text that is promised is put together by computation
    rw [text _ _ clauses (show last.toClause 3 = .ok "((b = 'x') OR (c  IS NULL))" by decide)]
    decide
  · exact error [] deep _ (.depthExceeded 1) rfl (by simp) (by decide)

end Expression

end SqlFilter
