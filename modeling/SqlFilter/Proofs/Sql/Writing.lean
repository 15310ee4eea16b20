import SqlFilter.Sql.Piece

/-!
# Writing pieces and reading them back

`Sql.pieces?` reads a text into characters outside literals and literals. `Sql.write` goes the other
way, and doubles the quotes inside literals again.

* Writing what has been read gives the text back (`write_of_pieces?`), so reading loses nothing.
* Not every list of pieces is read back as it was written: a literal next to a literal would merge
  with it, and a quote outside literals would open one. `pieces? (write ps) = some ps` says that
  `ps` is read back, and `ReadsBack` that moreover the reading ends outside of literals, so that
  anything may follow (`ReadsBack.append`).

The two are linked by one character: a list that is read back, and behind it a character other than
a quote (`readsBack_concat`).
-/

namespace SqlFilter

namespace Sql

open Sanitize (quote doubleQuotes)

/-! ### Writing -/

/-- A piece as it is written. -/
def Piece.write : Piece → List Char
  | .code c => [c]
  | .literal content => quote :: doubleQuotes content ++ [quote]

/-- Pieces as they are written. -/
def write (pieces : List Piece) : List Char := pieces.flatMap Piece.write

/-- A text outside literals. -/
def codes (cs : List Char) : List Piece := cs.map Piece.code

@[simp] theorem write_nil : write [] = [] := rfl

@[simp] theorem write_cons (p : Piece) (ps : List Piece) : write (p :: ps) = p.write ++ write ps :=
  rfl

@[simp] theorem write_append (ps qs : List Piece) : write (ps ++ qs) = write ps ++ write qs := by
  simp [write]

@[simp] theorem write_codes (cs : List Char) : write (codes cs) = cs := by
  induction cs with
  | nil => rfl
  | cons c cs ih =>
    change c :: write (codes cs) = c :: cs
    rw [ih]

/-! ### Reading gives back the text -/

namespace Reading

/-- The text that has been read. -/
def written (r : Reading) : List Char :=
  write r.pieces ++
    match r.place with
    | .outside => []
    | .inside content => quote :: doubleQuotes content
    | .closing content => quote :: doubleQuotes content ++ [quote]

/-- One step reads one character. -/
theorem written_step (r : Reading) (c : Char) : (r.step c).written = r.written ++ [c] := by
  obtain ⟨pieces, place⟩ := r
  -- a quote opens a literal, or may close it, or was the first of a doubled one
  cases place with
  | outside =>
    by_cases h : c = quote
    · simp [step, written, h]
    · simp [step, written, h, Piece.write]
  | inside content =>
    by_cases h : c = quote
    · simp [step, written, h]
    · simp [step, written, h, Sanitize.doubleQuotes_append, Sanitize.doubleQuotes_cons]
  | closing content =>
    by_cases h : c = quote
    · simp [step, written, h, Sanitize.doubleQuotes_append, Sanitize.doubleQuotes_cons]
    · simp [step, written, h, Piece.write]

theorem written_run (r : Reading) (cs : List Char) : (r.run cs).written = r.written ++ cs := by
  induction cs generalizing r with
  | nil => simp
  | cons c cs ih => rw [run_cons, ih, written_step, List.append_assoc]; rfl

/-- What a finished reading has read. -/
theorem written_of_finish? {r : Reading} {ps : List Piece} (h : r.finish? = some ps) :
    r.written = write ps := by
  -- inside of a literal a reading is not finished
  obtain ⟨pieces, place⟩ := r
  cases place with
  | outside =>
    obtain rfl : pieces = ps := by simpa [finish?] using h
    simp [written]
  | inside content => simp [finish?] at h
  | closing content =>
    obtain rfl : pieces ++ [.literal content] = ps := by simpa [finish?] using h
    simp [written, Piece.write]

end Reading

/-- **Reading loses nothing**: written again, the pieces are the text. -/
theorem write_of_pieces? {cs : List Char} {ps : List Piece} (h : pieces? cs = some ps) :
    write ps = cs := by
  rw [← Reading.written_of_finish? h, Reading.written_run]
  rfl

/-! ### Reading back what has been written -/

namespace Reading

/-- What has been read before does not matter for the reading of the rest. -/
theorem run_append_pieces (before pieces : List Piece) (place : Place) (cs : List Char) :
    (⟨before ++ pieces, place⟩ : Reading).run cs
      = ⟨before ++ ((⟨pieces, place⟩ : Reading).run cs).pieces,
          ((⟨pieces, place⟩ : Reading).run cs).place⟩ := by
  induction cs generalizing pieces place with
  | nil => rfl
  | cons c cs ih =>
    -- no step looks at the pieces, it only adds to them
    have same : (⟨before ++ pieces, place⟩ : Reading).step c
        = ⟨before ++ ((⟨pieces, place⟩ : Reading).step c).pieces,
            ((⟨pieces, place⟩ : Reading).step c).place⟩ := by
      cases place <;> simp only [step] <;> split <;> simp
    rw [run_cons, run_cons, same, ih]

/-- A reading that stands outside of literals reads on as one that starts anew. -/
theorem finish?_run_outside (before : List Piece) (cs : List Char) :
    ((⟨before, .outside⟩ : Reading).run cs).finish? = (pieces? cs).map (before ++ ·) := by
  have anew := run_append_pieces before [] .outside cs
  rw [List.append_nil] at anew
  rw [anew, pieces?, start]
  cases place : ((⟨[], .outside⟩ : Reading).run cs).place <;> simp [finish?, place]

/-- Outside literals, or behind a quote that may close one, a character other than a quote is read
as it stands. -/
theorem step_of_finish? {r : Reading} {ps : List Piece} (h : r.finish? = some ps) {c : Char}
    (hc : c ≠ quote) : r.step c = ⟨ps ++ [.code c], .outside⟩ := by
  obtain ⟨pieces, place⟩ := r
  cases place with
  -- as at the end of a text, but with the character read as code
  | outside =>
    obtain rfl : pieces = ps := by simpa [finish?] using h
    simp [step, hc]
  | inside content => simp [finish?] at h
  | closing content =>
    obtain rfl : pieces ++ [.literal content] = ps := by simpa [finish?] using h
    simp [step, hc]

/-- Inside a literal, doubled quotes are read as single ones. -/
theorem run_doubleQuotes (before : List Piece) (content cs : List Char) :
    (⟨before, .inside content⟩ : Reading).run (doubleQuotes cs)
      = ⟨before, .inside (content ++ cs)⟩ := by
  induction cs generalizing content with
  | nil => simp
  | cons c cs ih =>
    rw [Sanitize.doubleQuotes_cons]
    split
    · next isQuote => simp [step, ih, isQuote]
    · next notQuote => simp [step, ih, notQuote]

/-- Outside literals, doubled quotes open and close literals in turn, so that the reading may end
behind them. -/
theorem isSome_finish?_run_doubleQuotes {r : Reading} (h : r.finish?.isSome) (cs : List Char) :
    (r.run (doubleQuotes cs)).finish?.isSome := by
  induction cs generalizing r with
  | nil => exact h
  | cons c cs ih =>
    rw [Sanitize.doubleQuotes_cons]
    -- the reading stands outside of literals, or behind a quote that may close one
    obtain ⟨pieces, place⟩ := r
    split
    · cases place with
      | outside => exact ih (by simp [step, finish?])
      | inside content => simp [finish?] at h
      | closing content => exact ih (by simp [step, finish?])
    · next notQuote =>
      obtain ⟨ps, hps⟩ := Option.isSome_iff_exists.mp h
      rw [List.singleton_append, run_cons, step_of_finish? hps notQuote]
      exact ih (by simp [finish?])

end Reading

/-- The pieces are read back when they are written, wherever the reading stands outside of literals,
and it stands there again afterwards. -/
def ReadsBack (ps : List Piece) : Prop :=
  ∀ before, (⟨before, .outside⟩ : Reading).run (write ps) = ⟨before ++ ps, .outside⟩

/-- What has been read from a text is read back. -/
theorem pieces?_write_of_pieces? {cs : List Char} {ps : List Piece} (h : pieces? cs = some ps) :
    pieces? (write ps) = some ps := by
  rw [write_of_pieces? h, h]

theorem ReadsBack.nil : ReadsBack [] := fun before => by simp

theorem ReadsBack.append {ps qs : List Piece} (hp : ReadsBack ps) (hq : ReadsBack qs) :
    ReadsBack (ps ++ qs) := by
  intro before
  rw [write_append, Reading.run_append, hp, hq, List.append_assoc]

/-- The last part may end at the quote that closes a literal. -/
theorem ReadsBack.pieces?_append {ps qs : List Piece} (hp : ReadsBack ps)
    (hq : pieces? (write qs) = some qs) : pieces? (write (ps ++ qs)) = some (ps ++ qs) := by
  rw [pieces?, write_append, Reading.run_append, Reading.start, hp, Reading.finish?_run_outside, hq]
  rfl

theorem ReadsBack.pieces? {ps : List Piece} (h : ReadsBack ps) : pieces? (write ps) = some ps := by
  have nothing : Sql.pieces? (write []) = some [] := rfl
  rw [← List.append_nil ps]
  exact h.pieces?_append nothing

/-- **One character tells the end of a literal.** Behind whatever is read back, a character other
than a quote leaves the reading outside of literals. -/
theorem readsBack_concat {ps : List Piece} (h : pieces? (write ps) = some ps) {c : Char}
    (hc : c ≠ quote) : ReadsBack (ps ++ [.code c]) := by
  intro before
  -- the reading of `ps` may stand behind a quote here, and the character ends the literal
  have done : ((⟨before, .outside⟩ : Reading).run (write ps)).finish? = some (before ++ ps) := by
    rw [Reading.finish?_run_outside, h]
    rfl
  rw [write_append, Reading.run_append, ← List.append_assoc]
  exact Reading.step_of_finish? done hc

theorem readsBack_append_cons {ps qs : List Piece} (hp : pieces? (write ps) = some ps) {c : Char}
    (hc : c ≠ quote) (hq : ReadsBack qs) : ReadsBack (ps ++ .code c :: qs) := by
  have first := readsBack_concat hp hc
  simpa using first.append hq

theorem ReadsBack.cons {c : Char} (hc : c ≠ quote) {ps : List Piece} (h : ReadsBack ps) :
    ReadsBack (.code c :: ps) :=
  readsBack_append_cons (show Sql.pieces? (write []) = some [] from rfl) hc h

theorem readsBack_codes {cs : List Char} (h : quote ∉ cs) : ReadsBack (codes cs) := by
  induction cs with
  | nil => exact .nil
  | cons c cs ih =>
    rw [List.mem_cons, not_or] at h
    exact .cons (Ne.symm h.1) (ih h.2)

/-- A literal is read back whatever it contains. -/
theorem pieces?_write_literal (content : List Char) :
    pieces? (write [.literal content]) = some [.literal content] := by
  -- the quote opens the literal, and what is doubled in it does not close it
  have opened : (⟨[], .outside⟩ : Reading).step quote = ⟨[], .inside []⟩ := rfl
  rw [write_cons, Piece.write, write_nil, List.append_nil, pieces?, Reading.start,
    List.cons_append, Reading.run_cons, opened, Reading.run_append, Reading.run_doubleQuotes]
  rfl

/-- **Doubled quotes are balanced**: the reading of a text in which every quote is doubled ends
outside of literals. -/
theorem exists_pieces?_doubleQuotes (cs : List Char) : ∃ ps, pieces? (doubleQuotes cs) = some ps :=
  Option.isSome_iff_exists.mp (Reading.isSome_finish?_run_doubleQuotes rfl cs)

/-- A text without quotes is read as it stands. -/
theorem pieces?_of_notMem {cs : List Char} (h : quote ∉ cs) : pieces? cs = some (codes cs) := by
  have back := (readsBack_codes h).pieces?
  rwa [write_codes] at back

/-! ### The contents of literals -/

@[simp] theorem contents_nil : contents [] = [] := rfl

@[simp] theorem contents_code (c : Char) (ps : List Piece) :
    contents (.code c :: ps) = contents ps := rfl

@[simp] theorem contents_literal (content : List Char) (ps : List Piece) :
    contents (.literal content :: ps) = content :: contents ps := rfl

@[simp] theorem contents_append (ps qs : List Piece) :
    contents (ps ++ qs) = contents ps ++ contents qs := List.filterMap_append

@[simp] theorem contents_codes (cs : List Char) : contents (codes cs) = [] := by
  induction cs with
  | nil => rfl
  | cons c cs ih => exact ih

end Sql

end SqlFilter
