import SqlFilter.Proofs.Clause.Need
import SqlFilter.Proofs.Clause.Success
import SqlFilter.Proofs.Document.Groups
import SqlFilter.Proofs.Document.RoundTrip
import SqlFilter.Proofs.Expression.Decoding

/-!
# The depth of documents

Whatever is read from the text of a document can be compiled without being refused for depth
(`Document.need_le_of_read`). A reader allows 127 lists and objects to be open at a time, and every
level of the compiler takes two of them:

* An expression is an object or a list, and so is a term (`Expression.need_le_of_spells`).
* A group is an object that holds a list, and makes its items one level deeper
  (`Document.need_le_of_builds`). How many items there are does not matter, although the chain of
  the items is as deep a tree as there are items.

Half of 127 is 63, which is met by a test for `NULL` under 62 others.
-/

namespace SqlFilter

/-! ### Spellings -/

mutual

/-- A term is an object, and an expression that it nests is inside that object. -/
theorem Term.needLeft_le_of_spells {value : Json} {t : Term} (h : Term.Spells value t) :
    2 * max 1 t.needLeft ≤ value.nesting + 1 := by
  cases h with
  | column name | scalar | list =>
    rw [Term.needLeft, Json.nesting]
    · omega
    · simp
  | nested inner =>
    have below := Expression.need_le_of_spells inner
    rw [Term.needLeft, Json.nesting, Json.fieldNesting]
    omega

/-- **Every level of the compiler takes two levels** of nesting in each spelling. -/
theorem Expression.need_le_of_spells {value : Json} {e : Expression}
    (h : Expression.Spells value e) : 2 * e.need ≤ value.nesting := by
  -- the terms fall one level short, and the level of the expression itself makes up for it
  cases h with
  | @object fields l o r left right op hl _ hr spelledLeft _ spelledRight =>
    have first := Term.needLeft_le_of_spells spelledLeft
    have second := Term.needLeft_le_of_spells spelledRight
    have onRight := right.needRight_le_needLeft op
    have fieldLeft := Json.nesting_le_of_field? hl
    have fieldRight := Json.nesting_le_of_field? hr
    rw [Expression.need, Json.nesting]
    omega
  | @objectUnary fields l o left op hl _ _ spelledLeft _ =>
    have first := Term.needLeft_le_of_spells spelledLeft
    have fieldLeft := Json.nesting_le_of_field? hl
    rw [Expression.need, Json.nesting]
    omega
  | @list l o r left right op spelledLeft _ spelledRight =>
    have first := Term.needLeft_le_of_spells spelledLeft
    have second := Term.needLeft_le_of_spells spelledRight
    have onRight := right.needRight_le_needLeft op
    simp only [Expression.need, Json.nesting, Json.listNesting]
    omega
  | listUnary spelledLeft _ | listNull spelledLeft _ =>
    have first := Term.needLeft_le_of_spells spelledLeft
    simp only [Expression.need, Json.nesting, Json.listNesting]
    omega

end

namespace Document

/-! ### Groups -/

mutual

/-- **A group takes two levels** of nesting as well, and the chain of its items one level of the
compiler. -/
theorem need_le_of_builds {value : Json} {e : Expression} (h : Builds value e) :
    2 * e.need ≤ value.nesting := by
  cases h with
  | leaf _ decoded => exact Expression.need_le_of_spells (Expression.spells_of_ofJson decoded)
  | @group joiner items link links built =>
    have inside := need_le_of_buildsAll built
    -- the items are two levels further inside than the group
    have each : ∀ e ∈ link :: links, e.need ≤ Json.listNesting items / 2 := by
      intro e mem
      have := inside e mem
      omega
    have chain := Expression.need_chain_le joiner each
    simp only [Json.nesting, Json.fieldNesting]
    omega

theorem need_le_of_buildsAll {items : List Json} {links : List Expression}
    (h : BuildsAll items links) : ∀ e ∈ links, 2 * e.need ≤ Json.listNesting items := by
  cases h with
  | nil => simp
  | cons first others =>
    have here := need_le_of_builds first
    have there := need_le_of_buildsAll others
    rw [Json.listNesting]
    refine List.forall_mem_cons.mpr ⟨by omega, fun e mem => ?_⟩
    have := there e mem
    omega

end

/-! ### Texts -/

/-- A reader allows 127 levels of nesting, and that is less than 64 pairs. -/
theorem need_le_sixtyThree {text : String} {e : Expression} (h : read text = .ok (some e)) :
    e.need ≤ 63 := by
  rw [read] at h
  split at h
  · next value parsed =>
    -- twice the depth is at most 127, so the depth is at most 63
    have levels : value.nesting ≤ 127 := Json.nesting_le_of_read parsed
    have twice := need_le_of_builds (builds_of_ofJson h)
    omega
  · cases h

/-- **No document is too deep.** An expression that is read from a text needs a depth of at most 63,
so it is not refused for depth under any limit from 63 on. -/
theorem need_le_of_read {text : String} {e : Expression} (h : read text = .ok (some e)) :
    e.need ≤ 63 ∧
    ∀ limit, 63 ≤ limit → ∀ n, e.toClause limit ≠ .error (.depthExceeded n) := by
  have need := need_le_sixtyThree h
  exact ⟨need, fun limit enough => Expression.toClause_ne_depthExceeded (by omega)⟩

/-- The bound is met: 62 tests for `NULL` around another one are read from a text, need a depth of
63, and are refused under the limit 62. -/
theorem need_le_of_read_of_tests :
    let e := (fun e => Expression.unary (.nested e) .isNull)^[62] (Expression.isNull "a")
    read e.toJson.toText = .ok (some e) ∧ e.need = 63 ∧
      e.toClause 62 = .error (.depthExceeded 62) ∧
      ∀ limit, 63 ≤ limit → ∀ n, e.toClause limit ≠ .error (.depthExceeded n) := by
  intro e
  -- the tree has no values, so its text is read back without rounding
  have scalars : e.scalars = [] := by decide +kernel
  have built : read e.toJson.toText = .ok (some e) :=
    read_toText_eq_ok (by simp [scalars]) (by decide +kernel)
  have refused : e.toClause 62 = .error (.depthExceeded 62) := by decide +kernel
  have need : e.need = 63 := by decide +kernel
  exact ⟨built, need, refused, (need_le_of_read built).2⟩

end Document

end SqlFilter
