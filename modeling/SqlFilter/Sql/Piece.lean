import SqlFilter.Sanitize

/-!
# Literals in the text of a statement

A reader of SQL tells literals from the rest by the single quotes. Outside a literal a quote opens
one. Inside, two quotes next to each other stand for one quote, and any other quote closes the
literal. `Sql.pieces?` splits a text by this rule; a text that ends inside a literal has no pieces.

The reading is a left fold, so a text put together from parts is read part by part
(`Sql.Reading.run_append`).
-/

namespace SqlFilter

namespace Sql

open Sanitize (quote)

/-- A piece of a statement's text. -/
inductive Piece where
  /-- A character outside literals. -/
  | code (c : Char)
  /-- A literal, with what it stands for. -/
  | literal (content : List Char)
deriving DecidableEq, Repr

namespace Piece

/-- The content of a literal. -/
def content? : Piece → Option (List Char)
  | .code _ => none
  | .literal content => some content

/-- A piece with its literal made unreadable. -/
def masked : Piece → Piece
  | .code c => .code c
  | .literal _ => .literal []

end Piece

/-- Where the reading of a text stands. -/
inductive Place where
  | outside
  /-- Inside a literal of which `content` has been read. -/
  | inside (content : List Char)
  /-- Behind a quote that closes the literal unless another quote follows. -/
  | closing (content : List Char)
deriving DecidableEq, Repr

/-- The pieces read so far, and the place where the reading stands. -/
structure Reading where
  pieces : List Piece
  place : Place
deriving DecidableEq, Repr

namespace Reading

/-- Nothing has been read. -/
def start : Reading := ⟨[], .outside⟩

/-- The reading of one more character. -/
def step (r : Reading) (c : Char) : Reading :=
  match r.place with
  | .outside => if c = quote then ⟨r.pieces, .inside []⟩ else ⟨r.pieces ++ [.code c], .outside⟩
  | .inside content =>
    if c = quote then ⟨r.pieces, .closing content⟩ else ⟨r.pieces, .inside (content ++ [c])⟩
  | .closing content =>
    if c = quote then ⟨r.pieces, .inside (content ++ [quote])⟩
    else ⟨r.pieces ++ [.literal content, .code c], .outside⟩

/-- The reading of a text. -/
def run (r : Reading) (cs : List Char) : Reading := cs.foldl step r

@[simp] theorem run_nil (r : Reading) : r.run [] = r := rfl

@[simp] theorem run_cons (r : Reading) (c : Char) (cs : List Char) :
    r.run (c :: cs) = (r.step c).run cs := rfl

/-- **A text is read part by part.** -/
theorem run_append (r : Reading) (cs ds : List Char) : r.run (cs ++ ds) = (r.run cs).run ds := by
  simp [run]

/-- The pieces at the end of the text, unless it ends inside a literal. -/
def finish? (r : Reading) : Option (List Piece) :=
  match r.place with
  | .outside => some r.pieces
  | .inside _ => none
  | .closing content => some (r.pieces ++ [.literal content])

end Reading

/-- **The pieces of a text.** -/
def pieces? (cs : List Char) : Option (List Piece) := (Reading.start.run cs).finish?

/-- The contents of the literals, in their order. -/
def contents (pieces : List Piece) : List (List Char) := pieces.filterMap Piece.content?

/-- Whether parentheses outside literals make the pieces one group: the first one is closed by the
last character and not before. A part is looked at wherever it ends outside a literal. -/
structure IsGroup (cs : List Char) : Prop where
  /-- The text begins by opening a parenthesis. -/
  opened : cs.head? = some '('
  /-- The text ends outside literals, and closes as many parentheses as it opens. -/
  balanced : ∃ pieces, pieces? cs = some pieces ∧
    pieces.count (.code '(') = pieces.count (.code ')')
  /-- Before its end a parenthesis is open. -/
  unfinished : ∀ part rest, part ≠ [] → rest ≠ [] → part ++ rest = cs →
    ∀ pieces, pieces? part = some pieces →
      pieces.count (.code ')') < pieces.count (.code '(')

end Sql

end SqlFilter
