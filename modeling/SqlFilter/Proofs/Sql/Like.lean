import SqlFilter.Proofs.Sanitize.Stripped
import SqlFilter.Sql.Like

/-!
# What patterns match, and how tests are read

The first half is about patterns. A pattern put together from two matches what is put together from
what they match (`Like.matches_append_iff`), which reduces the three patterns of a text to the text
itself: some beginning, some part or some end of the value is matched
(`Like.matches_startingWith_iff` and the two beside it). A text without wildcards matches itself
only, and then these are the prefixes, the infixes and the suffixes.

The second half is about conditions as they are written. The tests of a column are uniquely readable
(`Like.clauseOf_injective`), whatever the name of the column, since a literal ends at the first
quote that is not doubled. So the clause of some tests is true of a value or false, and never both.
-/

namespace SqlFilter

namespace Like

open Sanitize (quote)

/-! ### Patterns by their first character -/

theorem matches_nil_iff {value : List Char} : Matches [] value ↔ value = [] := by
  constructor
  · intro h
    cases h
    rfl
  · rintro rfl
    exact .nil

/-- A run leaves an end of the value to the rest of the pattern. -/
theorem matches_run_iff {pattern value : List Char} :
    Matches ('%' :: pattern) value ↔ ∃ rest, rest <:+ value ∧ Matches pattern rest := by
  constructor
  · -- the other rules ask for a character that is no run
    intro h
    cases h with
    | run skipped matched => exact ⟨_, List.suffix_append skipped _, matched⟩
    | self c notRun => exact absurd rfl notRun
  · rintro ⟨rest, ⟨skipped, rfl⟩, matched⟩
    exact .run skipped matched

/-- Any other character leaves all but the first character of the value. -/
theorem matches_cons_iff {c : Char} (notRun : c ≠ '%') {pattern value : List Char} :
    Matches (c :: pattern) value
      ↔ ∃ first rest, value = first :: rest ∧ (c = '_' ∨ c = first) ∧ Matches pattern rest := by
  constructor
  · intro h
    cases h with
    | run => exact absurd rfl notRun
    | one first matched => exact ⟨first, _, rfl, .inl rfl, matched⟩
    | self _ _ _ matched => exact ⟨c, _, rfl, .inr rfl, matched⟩
  · rintro ⟨first, rest, rfl, fits, matched⟩
    by_cases isOne : c = '_'
    · subst isOne
      exact .one first matched
    · obtain rfl : c = first := fits.resolve_left isOne
      exact .self c notRun isOne matched

/-- **Trying every end finds the matches.** -/
theorem accepts_iff (pattern value : List Char) :
    accepts pattern value ↔ Matches pattern value := by
  induction pattern generalizing value with
  -- an empty pattern is accepted where nothing is left of the value
  | nil => rw [matches_nil_iff, accepts, List.isEmpty_iff]
  | cons c pattern ih =>
    unfold accepts
    -- a run is the only character that has to try several ends
    by_cases isRun : c = '%'
    · subst isRun
      rw [if_pos rfl, matches_run_iff, List.any_eq_true]
      constructor
      · rintro ⟨n, -, accepted⟩
        exact ⟨value.drop n, List.drop_suffix n value, (ih _).mp accepted⟩
      · rintro ⟨rest, ⟨skipped, rfl⟩, matched⟩
        -- the matcher tries every length up to that of the whole value
        have inside : skipped.length < (skipped ++ rest).length + 1 := by
          rw [List.length_append]
          omega
        refine ⟨skipped.length, List.mem_range.mpr inside, ?_⟩
        rw [List.drop_left]
        exact (ih rest).mpr matched
    · rw [if_neg isRun, matches_cons_iff isRun]
      cases value with
      | nil => simp
      | cons first rest => simp [ih]

instance (pattern value : List Char) : Decidable (Matches pattern value) :=
  decidable_of_iff _ (accepts_iff pattern value)

example : Matches "_b%d".toList "abccd".toList ∧ ¬ Matches "_b%d".toList "bd".toList := by decide

/-! ### Patterns put together -/

theorem Matches.append {p q v w : List Char} (hp : Matches p v) (hq : Matches q w) :
    Matches (p ++ q) (v ++ w) := by
  -- along the match of the first pattern; the second one takes what is left
  induction hp with
  | nil => exact hq
  | run skipped _ ih =>
    rw [List.append_assoc]
    exact .run skipped ih
  | one c _ ih => exact .one c ih
  | self c notRun notOne _ ih => exact .self c notRun notOne ih

/-- **What is matched by two patterns in a row** is in two parts. -/
theorem matches_append_iff {p q value : List Char} :
    Matches (p ++ q) value ↔ ∃ v w, v ++ w = value ∧ Matches p v ∧ Matches q w := by
  constructor
  · intro h
    -- along the first pattern: its characters take what stands at the front of the value
    induction p generalizing value with
    | nil => exact ⟨[], value, rfl, .nil, h⟩
    | cons c p ih =>
      by_cases isRun : c = '%'
      · subst isRun
        obtain ⟨_, ⟨skipped, rfl⟩, matched⟩ := matches_run_iff.mp h
        obtain ⟨v, w, rfl, hp, hq⟩ := ih matched
        exact ⟨skipped ++ v, w, List.append_assoc .., .run skipped hp, hq⟩
      · obtain ⟨first, _, rfl, fits, matched⟩ := (matches_cons_iff isRun).mp h
        obtain ⟨v, w, rfl, hp, hq⟩ := ih matched
        exact ⟨first :: v, w, rfl, (matches_cons_iff isRun).mpr ⟨first, v, rfl, fits, hp⟩, hq⟩
  · rintro ⟨v, w, rfl, hp, hq⟩
    exact hp.append hq

/-- A run alone matches everything. -/
theorem matches_run (value : List Char) : Matches ['%'] value :=
  matches_run_iff.mpr ⟨[], List.nil_suffix, .nil⟩

/-- Without wildcards a pattern matches itself only. -/
theorem matches_iff_eq {text : List Char} (noRun : '%' ∉ text) (noOne : '_' ∉ text)
    {value : List Char} : Matches text value ↔ value = text := by
  induction text generalizing value with
  | nil => exact matches_nil_iff
  | cons c text ih =>
    rw [List.mem_cons, not_or] at noRun noOne
    rw [matches_cons_iff (Ne.symm noRun.1)]
    constructor
    · rintro ⟨first, rest, rfl, fits, matched⟩
      -- no character is a wildcard, so each one stands for itself
      rw [fits.resolve_left (Ne.symm noOne.1), (ih noRun.2 noOne.2).mp matched]
    · rintro rfl
      exact ⟨c, text, rfl, .inr rfl, (ih noRun.2 noOne.2).mpr rfl⟩

/-! ### The three patterns of a text -/

section Text

variable {text value : List Char}

theorem matches_startingWith_iff :
    Matches (startingWith text) value ↔ ∃ part, part <+: value ∧ Matches text part := by
  rw [startingWith, matches_append_iff]
  constructor
  · -- the run at the end takes what stands behind the part
    rintro ⟨part, rest, rfl, matched, -⟩
    exact ⟨part, List.prefix_append part rest, matched⟩
  · rintro ⟨part, ⟨rest, rfl⟩, matched⟩
    exact ⟨part, rest, rfl, matched, matches_run rest⟩

theorem matches_endingWith_iff :
    Matches (endingWith text) value ↔ ∃ part, part <:+ value ∧ Matches text part :=
  matches_run_iff

theorem matches_containing_iff :
    Matches (containing text) value ↔ ∃ part, part <:+: value ∧ Matches text part := by
  rw [containing, List.cons_append, matches_run_iff]
  constructor
  · rintro ⟨rest, isEnd, matched⟩
    obtain ⟨part, begins, matched⟩ := matches_startingWith_iff.mp matched
    exact ⟨part, begins.isInfix.trans isEnd.isInfix, matched⟩
  · -- the first run takes what is in front of the part, the second what is behind it
    rintro ⟨part, ⟨front, back, rfl⟩, matched⟩
    refine ⟨part ++ back, ⟨front, (List.append_assoc ..).symm⟩, ?_⟩
    exact matches_startingWith_iff.mpr ⟨part, List.prefix_append part back, matched⟩

/-- What is matched at the start or at the end is matched somewhere. -/
theorem Matches.containing_of_startingWith (h : Matches (startingWith text) value) :
    Matches (containing text) value := by
  obtain ⟨part, begins, matched⟩ := matches_startingWith_iff.mp h
  exact matches_containing_iff.mpr ⟨part, begins.isInfix, matched⟩

@[inherit_doc Matches.containing_of_startingWith]
theorem Matches.containing_of_endingWith (h : Matches (endingWith text) value) :
    Matches (containing text) value := by
  obtain ⟨part, ends, matched⟩ := matches_endingWith_iff.mp h
  exact matches_containing_iff.mpr ⟨part, ends.isInfix, matched⟩

/-- **Without wildcards, to match is to occur.** -/
theorem matches_containing_iff_infix (noRun : '%' ∉ text) (noOne : '_' ∉ text) :
    Matches (containing text) value ↔ text <:+: value := by
  simp [matches_containing_iff, matches_iff_eq noRun noOne]

end Text

/-! ### Three tests of a text -/

section ThreeWay

variable {text value : List Char}

theorem any_threeWay {negated : Bool} :
    Any (threeWay negated text) value
      ↔ (Test.mk negated (startingWith text)).Holds value
        ∨ (Test.mk negated (containing text)).Holds value
        ∨ (Test.mk negated (endingWith text)).Holds value := by
  simp [Any, threeWay]

/-- **Three tests joined by `OR` are one**: the two others are stronger than that in the middle. -/
theorem any_threeWay_iff : Any (threeWay false text) value ↔ Matches (containing text) value := by
  rw [any_threeWay]
  constructor
  · -- a match at the start or at the end is one within, and that one is tested too
    rintro (atStart | within | atEnd)
    · exact Matches.containing_of_startingWith atStart
    · exact within
    · exact Matches.containing_of_endingWith atEnd
  · intro within
    exact .inr (.inl within)

/-- **Three negated tests joined by `OR`** fail only together: where the text is matched both at the
start and at the end. -/
theorem any_threeWay_negated_iff :
    Any (threeWay true text) value
      ↔ ¬ (Matches (startingWith text) value ∧ Matches (endingWith text) value) := by
  rw [any_threeWay]
  constructor
  · -- where the text is matched at the start, it is matched within, so all three tests fail
    rintro (notStart | notWithin | notEnd) ⟨atStart, atEnd⟩
    · exact notStart atStart
    · exact notWithin atStart.containing_of_startingWith
    · exact notEnd atEnd
  · intro notBoth
    -- one of the two outer tests passes, and the one in the middle is not needed
    by_cases atStart : Matches (startingWith text) value
    · exact .inr (.inr fun atEnd => notBoth ⟨atStart, atEnd⟩)
    · exact .inl atStart

end ThreeWay

/-! ### Reading tests -/

/-- A test ends where its literal does, and its keyword tells whether it is negated. -/
theorem Test.write_append_inj {column rest rest' : List Char} {t u : Test}
    (hrest : rest.head? ≠ some quote) (hrest' : rest'.head? ≠ some quote)
    (h : t.write column ++ rest = u.write column ++ rest') : t = u ∧ rest = rest' := by
  -- the column is the same, so what stands behind it is
  obtain ⟨negated, pattern⟩ := t
  obtain ⟨negated', pattern'⟩ := u
  simp only [write, List.append_assoc, List.append_cancel_left_eq] at h
  -- the keywords differ in their second character
  have sameKeyword : negated = negated' := by
    cases negated <;> cases negated'
    · rfl
    · exact absurd h (by simp)
    · exact absurd h (by simp)
    · rfl
  subst sameKeyword
  obtain ⟨rfl, further⟩ :=
    Sanitize.doubleQuotes_append_inj hrest hrest' (List.append_cancel_left h)
  exact ⟨rfl, further⟩

/-- What stands behind a test: the keyword and further tests, or the parenthesis. -/
def behind (column : List Char) : List Test → List Char
  | [] => [')']
  | t :: tests => 'O' :: 'R' :: ' ' :: t.write column ++ behind column tests

theorem intercalate_write (column : List Char) (t : Test) (tests : List Test) :
    ['O', 'R', ' '].intercalate ((t :: tests).map (Test.write column)) ++ [')']
      = t.write column ++ behind column tests := by
  induction tests generalizing t with
  | nil => simp [behind]
  | cons u tests ih =>
    rw [List.map_cons, List.map_cons, List.intercalate_cons_cons, ← List.map_cons,
      List.append_assoc, List.append_assoc, ih, behind]
    rfl

/-- No quote follows that would go on with the literal. -/
theorem head?_behind_ne (column : List Char) (tests : List Test) :
    (behind column tests).head? ≠ some quote := by
  cases tests <;> simp [behind, quote]

theorem behind_injective {column : List Char} {ts us : List Test}
    (h : behind column ts = behind column us) : ts = us := by
  induction ts generalizing us with
  | nil =>
    -- a parenthesis is no keyword
    cases us with
    | nil => rfl
    | cons u us => simp [behind] at h
  | cons t ts ih =>
    cases us with
    | nil => simp [behind] at h
    | cons u us =>
      have written : t.write column ++ behind column ts = u.write column ++ behind column us := by
        simpa [behind] using h
      obtain ⟨rfl, rest⟩ :=
        Test.write_append_inj (head?_behind_ne column ts) (head?_behind_ne column us) written
      rw [ih rest]

theorem write_append_behind_ne (column : List Char) (t : Test) (tests : List Test) :
    t.write column ++ behind column tests ≠ [')'] := by
  intro short
  -- the test ends with a quote, and something is behind it
  have length := congrArg List.length short
  simp only [Test.write, List.length_append, List.length_cons, List.length_nil] at length
  have more : 0 < (behind column tests).length := by cases tests <;> exact Nat.succ_pos _
  omega

/-- **The tests of a clause are uniquely readable**, whatever the name of the column. -/
theorem clauseOf_injective {column : List Char} {ts us : List Test}
    (h : clauseOf column ts = clauseOf column us) : ts = us := by
  have inParens : writeAny column ts = writeAny column us :=
    List.append_cancel_right (List.cons.inj h).2
  -- the parentheses at both ends are no part of the tests
  have inside := (List.cons.inj inParens).2
  cases ts with
  | nil =>
    cases us with
    | nil => rfl
    | cons u us =>
      have nothing : u.write column ++ behind column us = [')'] :=
        (intercalate_write column u us).symm.trans inside.symm
      exact absurd nothing (write_append_behind_ne column u us)
  | cons t ts =>
    cases us with
    | nil =>
      have nothing : t.write column ++ behind column ts = [')'] :=
        (intercalate_write column t ts).symm.trans inside
      exact absurd nothing (write_append_behind_ne column t ts)
    | cons u us =>
      -- behind another test both would stand after the keyword
      have later : behind column (t :: ts) = behind column (u :: us) :=
        calc behind column (t :: ts)
            = ['O', 'R', ' '] ++ (['O', 'R', ' '].intercalate
                ((t :: ts).map (Test.write column)) ++ [')']) := by rw [intercalate_write]; rfl
          _ = ['O', 'R', ' '] ++ (['O', 'R', ' '].intercalate
                ((u :: us).map (Test.write column)) ++ [')']) :=
              congrArg (['O', 'R', ' '] ++ ·) inside
          _ = behind column (u :: us) := by rw [intercalate_write]; rfl
      exact behind_injective later

/-! ### Evaluating clauses -/

theorem isTrue_clauseOf_iff {column value : List Char} {tests : List Test} :
    IsTrue column (clauseOf column tests) value ↔ Any tests value := by
  constructor
  · -- some tests are written as this clause, and they are these
    rintro ⟨_, same, passed⟩
    rw [clauseOf_injective same]
    exact passed
  · intro passed
    exact ⟨tests, rfl, passed⟩

theorem isFalse_clauseOf_iff {column value : List Char} {tests : List Test} :
    IsFalse column (clauseOf column tests) value ↔ ¬ Any tests value := by
  constructor
  · rintro ⟨_, same, failed⟩
    rw [clauseOf_injective same]
    exact failed
  · intro failed
    exact ⟨tests, rfl, failed⟩

end Like

end SqlFilter
