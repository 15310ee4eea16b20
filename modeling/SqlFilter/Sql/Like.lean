import SqlFilter.Sql.Piece

/-!
# LIKE patterns

A pattern stands for a set of strings: `%` for any run of characters, also an empty one, `_` for any
one character, and every other character for itself. Nothing escapes a wildcard.

A condition on a column may be an `OR` of such tests, some of them negated. `Like.writeAny` writes
it, and `Like.Any` says of which values it holds. Evaluating a clause goes from the text to the
tests: a clause is true or false of a value by the tests that it is read as (`Like.IsTrue`,
`Like.IsFalse`).
-/

namespace SqlFilter

namespace Like

/-- **The strings of a pattern.** -/
inductive Matches : List Char → List Char → Prop where
  | nil : Matches [] []
  /-- `%` stands for any characters. -/
  | run {pattern value : List Char} (skipped : List Char) :
    Matches pattern value → Matches ('%' :: pattern) (skipped ++ value)
  /-- `_` stands for any one character. -/
  | one {pattern value : List Char} (c : Char) :
    Matches pattern value → Matches ('_' :: pattern) (c :: value)
  /-- Any other character stands for itself. -/
  | self {pattern value : List Char} (c : Char) :
    c ≠ '%' → c ≠ '_' → Matches pattern value → Matches (c :: pattern) (c :: value)

/-- Whether a value is one of the strings of a pattern. For a run, every end of the value is
tried. -/
def accepts : List Char → List Char → Bool
  | [], value => value.isEmpty
  | c :: pattern, value =>
    if c = '%' then (List.range (value.length + 1)).any fun n => accepts pattern (value.drop n)
    else
      match value with
      | [] => false
      | first :: rest => (c = '_' || c = first) && accepts pattern rest

/-- The strings that start with a text, as a pattern. -/
def startingWith (text : List Char) : List Char := text ++ ['%']

/-- The strings in which a text occurs, as a pattern. -/
def containing (text : List Char) : List Char := '%' :: text ++ ['%']

/-- The strings that end with a text, as a pattern. -/
def endingWith (text : List Char) : List Char := '%' :: text

/-- A test of a column against a pattern. -/
structure Test where
  negated : Bool
  pattern : List Char
deriving DecidableEq, Repr

/-- Whether a value passes a test. -/
def Test.Holds (t : Test) (value : List Char) : Prop :=
  if t.negated then ¬ Matches t.pattern value else Matches t.pattern value

/-- Whether a value passes one of several tests. -/
def Any (tests : List Test) (value : List Char) : Prop := ∃ t ∈ tests, t.Holds value

/-- A test as it is written: the column, the keyword and the pattern as a literal. -/
def Test.write (column : List Char) (t : Test) : List Char :=
  column ++ (if t.negated then " NOT LIKE '".toList else " LIKE '".toList) ++
    Sanitize.doubleQuotes t.pattern ++ ['\x27']

/-- Several tests as they are written, in parentheses and joined by `OR`. -/
def writeAny (column : List Char) (tests : List Test) : List Char :=
  '(' :: ['O', 'R', ' '].intercalate (tests.map (Test.write column)) ++ [')']

/-- The three tests of a text: at the start, anywhere and at the end. -/
def threeWay (negated : Bool) (text : List Char) : List Test :=
  [⟨negated, startingWith text⟩, ⟨negated, containing text⟩, ⟨negated, endingWith text⟩]

/-- The clause of several tests: their condition, in one more pair of parentheses. -/
def clauseOf (column : List Char) (tests : List Test) : List Char :=
  '(' :: writeAny column tests ++ [')']

/-- **A clause is true** of a value of the column: it is read as tests one of which the value
passes. -/
def IsTrue (column clause value : List Char) : Prop :=
  ∃ tests, clause = clauseOf column tests ∧ Any tests value

/-- **A clause is false** of a value of the column: it is read as tests none of which the value
passes. -/
def IsFalse (column clause value : List Char) : Prop :=
  ∃ tests, clause = clauseOf column tests ∧ ¬ Any tests value

end Like

end SqlFilter
