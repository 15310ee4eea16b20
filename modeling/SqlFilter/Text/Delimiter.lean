/-!
# Delimiters and their cancellation

A **delimiter** is a pair of characters that must not stand next to each other in a text, such as
`--` or a comment's opening. Taking one occurrence out can join its two sides into a new one (for
the delimiter `ab`, the text `aabb` becomes `ab`), so removal has to go on until nothing is left
to remove.

Two definitions of that removal stand side by side:

* `Delimiter.cancel` reads the text once from left to right and keeps what it has read on a stack;
  a second character that meets a first one on top cancels it. This is what the program runs.
* `Delimiter.strip` takes out the leftmost occurrence until there is none, which is how the rule
  is usually told.
-/

namespace SqlFilter

/-- Two characters that are removed wherever the second follows the first. -/
structure Delimiter where
  first : Char
  second : Char
deriving DecidableEq, Repr

namespace Delimiter

/-- The text of a delimiter. -/
def toList (d : Delimiter) : List Char := [d.first, d.second]

/-- One step of the single pass: `c` meets the text read so far, whose last character is on top of
the stack, and the two cancel when they spell the delimiter. -/
def push (d : Delimiter) (stack : List Char) (c : Char) : List Char :=
  match stack with
  | [] => [c]
  | top :: below => if top = d.first ∧ c = d.second then below else c :: top :: below

@[simp] theorem push_nil (d : Delimiter) (c : Char) : d.push [] c = [c] := rfl

theorem push_cons (d : Delimiter) (top : Char) (below : List Char) (c : Char) :
    d.push (top :: below) c =
      if top = d.first ∧ c = d.second then below else c :: top :: below := rfl

/-- **Removal in one pass**, from left to right with a stack. -/
def cancel (d : Delimiter) (cs : List Char) : List Char :=
  (cs.foldl d.push []).reverse

/-- The text without the leftmost occurrence of the delimiter, if there is one. -/
def removeFirst? (d : Delimiter) : List Char → Option (List Char)
  | [] => none
  | [_] => none
  | a :: b :: rest =>
    if a = d.first ∧ b = d.second then some rest
    else (d.removeFirst? (b :: rest)).map (a :: ·)

theorem length_of_removeFirst? (d : Delimiter) {cs rest : List Char}
    (h : d.removeFirst? cs = some rest) : rest.length + 2 = cs.length := by
  induction cs generalizing rest with
  | nil => simp [removeFirst?] at h
  | cons a cs ih =>
    cases cs with
    | nil => simp [removeFirst?] at h
    | cons b cs =>
      rw [removeFirst?] at h
      split at h
      · simp only [Option.some.injEq] at h
        simp [← h]
      · obtain ⟨r, hr, rfl⟩ := Option.map_eq_some_iff.1 h
        simp [← ih hr]

/-- **Removal to a fixed point**, one leftmost occurrence at a time. -/
def strip (d : Delimiter) (cs : List Char) : List Char :=
  match _found : d.removeFirst? cs with
  | none => cs
  | some rest => d.strip rest
termination_by cs.length
decreasing_by
  have := d.length_of_removeFirst? _found
  omega

end Delimiter

end SqlFilter
