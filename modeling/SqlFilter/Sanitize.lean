import SqlFilter.Text.Delimiter

/-!
# The denylist of inlined text

Whatever is written into a clause, a value or an identifier, passes through `sanitize` first. It
drops control characters, removes the three comment delimiters one after another, each until none
of it is left, and doubles every single quote.

It is a best effort and no more: a later delimiter's removal may join text into an earlier one (two
dashes around the opening of a comment come out as `--`), and the result is not fit for every
dialect.
-/

namespace SqlFilter

namespace Sanitize

/-- The delimiters of comments, in the order in which they are removed. -/
def delimiters : List Delimiter := [⟨'-', '-'⟩, ⟨'/', '*'⟩, ⟨'*', '/'⟩]

/-- The single quote, which opens and closes a literal. -/
def quote : Char := '\x27'

/-- The control characters are those below the space. -/
def isControl (c : Char) : Bool := c.val < 32

/-- The text without control characters and comment delimiters: all of `sanitize` but the doubling
of quotes. -/
def stripped (cs : List Char) : List Char :=
  delimiters.foldl (fun text d => d.cancel text) (cs.filter fun c => !isControl c)

/-- Every single quote written twice. -/
def doubleQuotes (cs : List Char) : List Char :=
  cs.flatMap fun c => if c = quote then [quote, quote] else [c]

@[simp] theorem doubleQuotes_nil : doubleQuotes [] = [] := rfl

theorem doubleQuotes_cons (c : Char) (cs : List Char) :
    doubleQuotes (c :: cs) =
      (if c = quote then [quote, quote] else [c]) ++ doubleQuotes cs := by
  simp [doubleQuotes]

theorem doubleQuotes_append (cs ds : List Char) :
    doubleQuotes (cs ++ ds) = doubleQuotes cs ++ doubleQuotes ds := by
  simp [doubleQuotes]

/-- Every pair of single quotes written as one. -/
def undoubleQuotes : List Char → List Char
  | [] => []
  | [c] => [c]
  | c :: d :: rest =>
    if c = quote ∧ d = quote then quote :: undoubleQuotes rest
    else c :: undoubleQuotes (d :: rest)

/-- Doubling quotes loses nothing. -/
theorem undoubleQuotes_doubleQuotes (cs : List Char) : undoubleQuotes (doubleQuotes cs) = cs := by
  induction cs with
  | nil => rfl
  | cons c cs ih =>
    rw [doubleQuotes_cons]
    split
    · next isQuote => simp [undoubleQuotes, isQuote, ih]
    · next notQuote =>
      cases rest : doubleQuotes cs with
      | nil =>
        rw [rest] at ih
        simp [undoubleQuotes, ← ih]
      | cons d ds =>
        rw [rest] at ih
        simp [undoubleQuotes, notQuote, ih]

/-- The denylist over characters. -/
def chars (cs : List Char) : List Char := doubleQuotes (stripped cs)

end Sanitize

/-- Text as it is written into a clause: no control character, no comment delimiter removed last,
every quote doubled. -/
def sanitize (text : String) : String := String.ofList (Sanitize.chars text.toList)

@[simp] theorem toList_sanitize (text : String) :
    (sanitize text).toList = Sanitize.chars text.toList := by
  simp [sanitize]

end SqlFilter
