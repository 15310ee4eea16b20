import SqlFilter.Document

/-!
# The meaning of a document

A document is a tree of groups. Given what its expressions mean, a group under `all` is the
conjunction of its items, and one under `any` their disjunction: this is `Document.truth`, told
without building a chain.

`Document.faults` lists everything that is wrong with a document, from left to right. Reading a
document reports the first of these, and succeeds where there are none.
-/

namespace SqlFilter

namespace Document

/-- What an expression that is a document by itself means, if it is one. -/
def leafTruth (holds : Expression → Bool) (value : Json) : Bool :=
  match Expression.ofJson value with
  | .ok e => holds e
  | .error _ => false

mutual

/-- **The truth of a document**, given that of expressions. -/
def truth (holds : Expression → Bool) : Json → Bool
  | .object [(key, .list items)] =>
    match groupJoiner? key with
    | some .and => allTrue holds items
    | some .or => anyTrue holds items
    | none => leafTruth holds (.object [(key, .list items)])
  | value => leafTruth holds value

/-- Whether all items are true. -/
def allTrue (holds : Expression → Bool) : List Json → Bool
  | [] => true
  | item :: items => truth holds item && allTrue holds items

/-- Whether some item is true. -/
def anyTrue (holds : Expression → Bool) : List Json → Bool
  | [] => false
  | item :: items => truth holds item || anyTrue holds items

end

/-- A reading of expressions in which connectives mean what their names say. -/
structure IsInterpretation (holds : Expression → Bool) : Prop where
  and_eq : ∀ left right, holds (Expression.and left right) = (holds left && holds right)
  or_eq : ∀ left right, holds (Expression.or left right) = (holds left || holds right)

/-- What is wrong with a document that is no group. -/
def leafFaults (value : Json) : List DocumentError :=
  match Expression.ofJson value with
  | .ok _ => []
  | .error cause => [.shape cause]

mutual

/-- **All that is wrong with a document**, in its order. A group of no items is wrong within another
group, whose joiner is given. -/
def faults (around : Option Joiner) : Json → List DocumentError
  | .null => [.nullDocument]
  | .object [(key, content)] =>
    match groupJoiner? key with
    | none => leafFaults (.object [(key, content)])
    | some joiner =>
      match content with
      | .null => [.nullGroup joiner]
      | .list [] => (around.map DocumentError.emptyGroup).toList
      | .list (item :: items) => itemFaults joiner (item :: items)
      | _ => [.notList joiner]
  | value => leafFaults value

/-- All that is wrong with the items of a group. -/
def itemFaults (joiner : Joiner) : List Json → List DocumentError
  | [] => []
  | item :: items => faults (some joiner) item ++ itemFaults joiner items

end

end Document

end SqlFilter
