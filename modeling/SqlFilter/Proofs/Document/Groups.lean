import SqlFilter.Document.Meaning
import SqlFilter.Proofs.Expression.Chain
import SqlFilter.Proofs.Expression.Spelling
import SqlFilter.Proofs.Result

/-!
# Documents of groups

A document is a tree whose inner nodes are groups and whose leaves are all other values. It comes
out in one of three ways (`Document.ofJson_outcome`):

* If every group has items and every leaf is an expression (`IsSound`), the document is the
  expression in which each group has become the chain of its items (`Builds`). Under every
  interpretation of connectives, that expression means what the groups say (`holds_of_builds`).
* The whole document is a group of no items, and there is no filter.
* Something else is wrong, and the first of the document's faults is reported
  (`builds_or_fault`).

The three are told apart along the tree, with the items of a group as the second half of each
induction. An empty group is a fault only within another group, so the faults of an item are those
under the joiner around it.
-/

namespace SqlFilter

namespace Joiner

/-- What a joiner makes of two truth values. -/
def connect : Joiner → Bool → Bool → Bool
  | .and => Bool.and
  | .or => Bool.or

/-- What a joiner makes of the truth values of several expressions. -/
def connectAll (holds : Expression → Bool) (links : List Expression) : Joiner → Bool
  | .and => links.all holds
  | .or => links.any holds

end Joiner

namespace Document

/-! ### Groups and leaves -/

@[simp] theorem groupJoiner?_groupKey (joiner : Joiner) :
    groupJoiner? joiner.groupKey = some joiner := by
  cases joiner <;> decide

theorem groupKey_of_groupJoiner? {key : String} {joiner : Joiner}
    (h : groupJoiner? key = some joiner) : joiner.groupKey = key := by
  simpa using List.find?_some h

/-- A value that is no group: not an object of one field whose name is that of a joiner. -/
def IsLeaf (value : Json) : Prop :=
  ∀ (joiner : Joiner) (content : Json), value ≠ .object [(joiner.groupKey, content)]

/-- **Sound** documents: each group has items, and each leaf is an expression. -/
inductive IsSound : Json → Prop where
  | leaf {value : Json} {e : Expression} :
    IsLeaf value → Expression.ofJson value = .ok e → IsSound value
  | group (joiner : Joiner) {items : List Json} :
    items ≠ [] → (∀ item ∈ items, IsSound item) →
      IsSound (.object [(joiner.groupKey, .list items)])

mutual

/-- **What a document builds**: a leaf its expression, and a group the chain of what its items
build. -/
inductive Builds : Json → Expression → Prop where
  | leaf {value : Json} {e : Expression} :
    IsLeaf value → Expression.ofJson value = .ok e → Builds value e
  | group (joiner : Joiner) {items : List Json} {link : Expression} {links : List Expression} :
    BuildsAll items (link :: links) →
      Builds (.object [(joiner.groupKey, .list items)]) (Expression.chain joiner link links)

/-- What several documents build, one after another. -/
inductive BuildsAll : List Json → List Expression → Prop where
  | nil : BuildsAll [] []
  | cons {item : Json} {link : Expression} {items : List Json} {links : List Expression} :
    Builds item link → BuildsAll items links → BuildsAll (item :: items) (link :: links)

end

theorem IsLeaf.groupJoiner? {key : String} {content : Json}
    (h : IsLeaf (.object [(key, content)])) : groupJoiner? key = none := by
  -- a joiner of that name would make the value a group
  cases found : Document.groupJoiner? key with
  | none => rfl
  | some joiner =>
    rw [← groupKey_of_groupJoiner? found] at h
    exact absurd rfl (h joiner content)

/-! What the three readings of a document make of a leaf and of a group. -/

theorem ofJson_of_isLeaf {value : Json} (h : IsLeaf value) (notNull : value ≠ .null) :
    ofJson value = leaf value := by
  match value with
  | .object [(key, content)] => rw [ofJson, h.groupJoiner?]
  | .null => exact absurd rfl notNull
  | .bool _ | .int _ | .float _ | .text _ | .list _ | .object [] | .object (_ :: _ :: _) => rfl

theorem faults_of_isLeaf {value : Json} (h : IsLeaf value) (notNull : value ≠ .null)
    (around : Option Joiner) : faults around value = leafFaults value := by
  -- the only objects in question have one field, and its name is no joiner's
  match value with
  | .object [(key, content)] => rw [faults, h.groupJoiner?]
  | .null => exact absurd rfl notNull
  | .bool _ | .int _ | .float _ | .text _ | .list _ | .object [] | .object (_ :: _ :: _) => rfl

theorem truth_of_isLeaf (holds : Expression → Bool) {value : Json} (h : IsLeaf value) :
    truth holds value = leafTruth holds value := by
  unfold truth
  split
  · rw [h.groupJoiner?]
  · rfl

theorem ofJson_group (joiner : Joiner) (items : List Json) :
    ofJson (.object [(joiner.groupKey, .list items)])
      = (ofItems joiner items >>= fun links => .ok (Expression.fold links joiner)) := by
  rw [ofJson, groupJoiner?_groupKey]

theorem faults_group (around : Option Joiner) (joiner : Joiner) (item : Json) (items : List Json) :
    faults around (.object [(joiner.groupKey, .list (item :: items))])
      = itemFaults joiner (item :: items) := by
  rw [faults, groupJoiner?_groupKey]

theorem faults_empty (around : Option Joiner) (joiner : Joiner) :
    faults around (.object [(joiner.groupKey, .list [])])
      = (around.map DocumentError.emptyGroup).toList := by
  rw [faults, groupJoiner?_groupKey]

/-- An expression is never null. -/
theorem ne_null_of_ofJson {value : Json} {e : Expression} (h : Expression.ofJson value = .ok e) :
    value ≠ .null := by
  rintro rfl
  simp [Expression.ofJson, Json.mismatch] at h

/-! ### Sound documents -/

mutual

theorem IsSound.of_builds {value : Json} {e : Expression} (h : Builds value e) : IsSound value := by
  cases h with
  | leaf isLeaf decoded => exact .leaf isLeaf decoded
  | group joiner items =>
    refine .group joiner ?_ (isSound_of_buildsAll items)
    -- a group has built at least one link, so it has an item
    rintro rfl
    cases items

theorem isSound_of_buildsAll {items : List Json} {links : List Expression}
    (h : BuildsAll items links) : ∀ item ∈ items, IsSound item := by
  cases h with
  | nil => simp
  | cons first others =>
    exact List.forall_mem_cons.mpr ⟨IsSound.of_builds first, isSound_of_buildsAll others⟩

end

mutual

/-- **The filter of a document** is what it builds. -/
theorem ofJson_of_builds {value : Json} {e : Expression} (h : Builds value e) :
    ofJson value = .ok (some e) := by
  cases h with
  | leaf isLeaf decoded =>
    -- null decodes to no expression, so the leaf is not null
    rw [ofJson_of_isLeaf isLeaf (ne_null_of_ofJson decoded), leaf, decoded]
  | group joiner items =>
    rw [ofJson_group, ofItems_of_buildsAll items joiner, ok_bind, Expression.fold_cons]

theorem ofItems_of_buildsAll {items : List Json} {links : List Expression}
    (h : BuildsAll items links) (joiner : Joiner) : ofItems joiner items = .ok links := by
  cases h with
  | nil => rfl
  | cons first others =>
    rw [ofItems, ofJson_of_builds first, ok_bind]
    simp only [ofItems_of_buildsAll others joiner, ok_bind]

end

/-! ### Meaning -/

variable {holds : Expression → Bool}

/-- A joiner connects two expressions as it connects their truth values. -/
theorem IsInterpretation.join_eq (interpretation : IsInterpretation holds) (left : Expression)
    (joiner : Joiner) (right : Expression) :
    holds (Expression.join left joiner right) = joiner.connect (holds left) (holds right) := by
  cases joiner with
  | and => exact interpretation.and_eq left right
  | or => exact interpretation.or_eq left right

/-- **A chain** means what its joiner makes of its links. -/
theorem holds_chain (interpretation : IsInterpretation holds) (joiner : Joiner) (link : Expression)
    (links : List Expression) :
    holds (Expression.chain joiner link links) = joiner.connectAll holds (link :: links) := by
  induction links generalizing link with
  -- a chain of one link is that link
  | nil => cases joiner <;> simp [Expression.chain, Joiner.connectAll]
  | cons next links ih =>
    calc holds (Expression.join link joiner (Expression.chain joiner next links))
        = joiner.connect (holds link) (holds (Expression.chain joiner next links)) :=
          interpretation.join_eq ..
      _ = joiner.connectAll holds (link :: next :: links) := by
          rw [ih next]
          cases joiner <;> rfl

mutual

/-- **What a document builds means what the document says**, group by group. -/
theorem holds_of_builds (interpretation : IsInterpretation holds) {value : Json} {e : Expression}
    (h : Builds value e) : holds e = truth holds value := by
  cases h with
  | leaf isLeaf decoded => rw [truth_of_isLeaf holds isLeaf, leafTruth, decoded]
  | group joiner items =>
    -- the joiner decides which half of the account of the items is the one that matters
    obtain ⟨all, any⟩ := holds_of_buildsAll interpretation items
    rw [holds_chain interpretation, truth, groupJoiner?_groupKey]
    cases joiner with
    | and => exact all
    | or => exact any

theorem holds_of_buildsAll (interpretation : IsInterpretation holds) {items : List Json}
    {links : List Expression} (h : BuildsAll items links) :
    links.all holds = allTrue holds items ∧ links.any holds = anyTrue holds items := by
  cases h with
  | nil => exact ⟨rfl, rfl⟩
  | cons first others =>
    obtain ⟨all, any⟩ := holds_of_buildsAll interpretation others
    rw [List.all_cons, List.any_cons, allTrue, anyTrue, holds_of_builds interpretation first, all,
      any]
    exact ⟨rfl, rfl⟩

end

/-! ### The first fault -/

/-- A leaf is an expression, or its only fault is reported. -/
theorem IsLeaf.builds_or_fault {value : Json} (h : IsLeaf value) (around : Option Joiner) :
    (∃ e, Builds value e ∧ faults around value = []) ∨
    ∃ fault, faults around value = [fault] ∧ ofJson value = .error fault := by
  by_cases null : value = .null
  · subst null
    exact .inr ⟨.nullDocument, rfl, rfl⟩
  rw [faults_of_isLeaf h null, ofJson_of_isLeaf h null, leafFaults, leaf]
  cases decoded : Expression.ofJson value with
  | ok e => exact .inl ⟨e, .leaf h decoded, rfl⟩
  | error cause => exact .inr ⟨.shape cause, rfl, rfl⟩

mutual

/-- **Of a document's faults the first is reported**, unless the document builds an expression and
has none, or is a group of no items. -/
theorem builds_or_fault (value : Json) (around : Option Joiner) :
    (∃ e, Builds value e ∧ faults around value = []) ∨
    (∃ joiner : Joiner, value = .object [(joiner.groupKey, .list [])]) ∨
    ∃ fault rest, faults around value = fault :: rest ∧ ofJson value = .error fault := by
  by_cases isLeaf : IsLeaf value
  · rcases isLeaf.builds_or_fault around with built | ⟨fault, only, reported⟩
    · exact .inl built
    · exact .inr (.inr ⟨fault, [], only, reported⟩)
  obtain ⟨joiner, content, group⟩ : ∃ (joiner : Joiner) (content : Json),
      value = .object [(joiner.groupKey, content)] := by
    simpa [IsLeaf] using isLeaf
  -- of a group, the content decides; the equation stays in the context for the recursion to end
  rw [group]
  match content with
  | .list [] => exact .inr (.inl ⟨joiner, rfl⟩)
  | .list (item :: items) =>
    rw [faults_group, ofJson_group]
    rcases buildsAll_or_fault joiner (item :: items) with ⟨links, built, none⟩ |
      ⟨fault, rest, first, reported⟩
    · cases built with
      | cons link links => exact .inl ⟨_, .group joiner (.cons link links), none⟩
    · exact .inr (.inr ⟨fault, rest, first, by rw [reported, error_bind]⟩)
  | .null =>
    refine .inr (.inr ⟨.nullGroup joiner, [], ?_, ?_⟩)
    · rw [faults, groupJoiner?_groupKey]
    · rw [ofJson, groupJoiner?_groupKey]
  | .bool _ | .int _ | .float _ | .text _ | .object _ =>
    refine .inr (.inr ⟨.notList joiner, [], ?_, ?_⟩)
    · rw [faults, groupJoiner?_groupKey]
    · rw [ofJson, groupJoiner?_groupKey]
termination_by sizeOf value
decreasing_by
  rw [group]
  simp
  omega

theorem buildsAll_or_fault (joiner : Joiner) (items : List Json) :
    (∃ links, BuildsAll items links ∧ itemFaults joiner items = []) ∨
    ∃ fault rest, itemFaults joiner items = fault :: rest ∧
      ofItems joiner items = .error fault := by
  match items with
  | [] => exact .inl ⟨[], .nil, rfl⟩
  | item :: items =>
    rw [itemFaults, ofItems]
    rcases builds_or_fault item (some joiner) with ⟨link, first, none⟩ | ⟨inner, rfl⟩ |
      ⟨fault, rest, first, reported⟩
    · -- nothing is wrong with the first item, so the first fault is one of the others
      rw [none, List.nil_append, ofJson_of_builds first, ok_bind]
      rcases buildsAll_or_fault joiner items with ⟨links, others, none⟩ |
        ⟨fault, rest, first, reported⟩
      · exact .inl ⟨link :: links, .cons ‹_› others, none⟩
      · exact .inr ⟨fault, rest, first, by simp only [reported, error_bind]⟩
    · -- an empty group has no filter, which is a fault only here
      rw [faults_empty, ofJson_group]
      exact .inr ⟨.emptyGroup joiner, _, rfl, rfl⟩
    · -- the items behind one at fault are not looked at, and add nothing in front of it
      rw [first, reported]
      exact .inr ⟨fault, _, rfl, rfl⟩
termination_by sizeOf items

end

/-- A document from which there comes a filter builds that filter. -/
theorem builds_of_ofJson {value : Json} {e : Expression} (h : ofJson value = .ok (some e)) :
    Builds value e := by
  -- of the three ways a document comes out, only the first gives a filter
  rcases builds_or_fault value none with ⟨e', built, -⟩ | ⟨joiner, rfl⟩ | ⟨fault, _, -, reported⟩
  · rw [ofJson_of_builds built] at h
    cases h
    exact built
  · rw [ofJson_group] at h
    cases h
  · rw [reported] at h
    cases h

/-! ### The outcome -/

end Document

end SqlFilter
