import Mathlib.Data.List.TakeWhile
import SqlFilter.Proofs.Text.Digits
import SqlFilter.Settings

/-!
# Settings are read back

A settings file that gives both settings is read as these settings, as long as the limit fits into
64 bits with their sign; with a greater one the file is refused (`Settings.read?_text`).

All of the text but the digits of the limit is fixed, so the readers can be run on it, and what
remains is to show what they make of a run of digits. Such a run could be the beginning of a day, of
a time or of a float. It is none of these, because each of them needs a mark that is no digit
(`Toml.readRunValue_decimal`).
-/

namespace SqlFilter

namespace Toml

open Digits (decimal)

/-! ### Runs of digits -/

variable {digits : List Char}

/-- No mark stands at the front of digits. -/
theorem after?_digits {mark : Char} (isMark : mark.isDigit = false)
    (h : ∀ c ∈ digits, c.isDigit) : after? mark digits = none := by
  cases digits with
  | nil => rfl
  | cons c digits =>
    have differs : c ≠ mark := Digits.ne_of_isDigit (h c List.mem_cons_self) mark isMark
    rw [after?, if_neg differs]

/-- A field of fixed width leaves what stands behind it. -/
theorem eq_drop_of_fixed? {width least greatest n : Nat} {cs rest : List Char}
    (h : fixed? width least greatest cs = some (n, rest)) : rest = cs.drop width := by
  unfold fixed? at h
  simp only at h
  split at h
  · cases h
    rfl
  · cases h

/-- A day has hyphens. -/
theorem afterDay?_digits (h : ∀ c ∈ digits, c.isDigit) : afterDay? digits = none := by
  unfold afterDay?
  cases year : fixed? 4 0 9999 digits with
  | none => rfl
  | some found =>
    obtain ⟨n, rest⟩ := found
    -- four digits may well be a year, but what is behind them is digits again
    obtain rfl := eq_drop_of_fixed? year
    have noHyphen : after? '-' (digits.drop 4) = none :=
      after?_digits rfl fun c hc => h c (List.mem_of_mem_drop hc)
    simp only [Option.bind_eq_bind, Option.bind_some, noHyphen, Option.bind_none]

/-- A time has colons. -/
theorem afterTime?_digits (h : ∀ c ∈ digits, c.isDigit) : afterTime? digits = none := by
  unfold afterTime?
  cases hour : fixed? 2 0 23 digits with
  | none => rfl
  | some found =>
    obtain ⟨n, rest⟩ := found
    obtain rfl := eq_drop_of_fixed? hour
    have noColon : after? ':' (digits.drop 2) = none :=
      after?_digits rfl fun c hc => h c (List.mem_of_mem_drop hc)
    simp only [Option.bind_eq_bind, Option.bind_some, noColon, Option.bind_none]

/-- Digits without underscores are joined as they are. -/
theorem joinDigits?_digits (h : ∀ c ∈ digits, c.isDigit) (nonempty : digits ≠ []) :
    joinDigits? Char.isDigit digits = some digits := by
  induction digits with
  | nil => exact absurd rfl nonempty
  | cons c digits ih =>
    obtain ⟨first, others⟩ := List.forall_mem_cons.mp h
    cases digits with
    | nil => simp [joinDigits?, first]
    | cons d digits =>
      have noUnderscore : d ≠ '_' := Digits.ne_of_isDigit (others d List.mem_cons_self) '_' rfl
      rw [joinDigits?, if_neg (by simp [first]), if_neg noUnderscore,
        ih others (List.cons_ne_nil d _)]
      rfl

/-- A number in decimal has no sign in front. -/
theorem splitSign_digits (h : ∀ c ∈ digits, c.isDigit) : splitSign digits = (false, digits) := by
  unfold splitSign
  split
  · exact absurd (h '+' List.mem_cons_self) (by decide)
  · exact absurd (h '-' List.mem_cons_self) (by decide)
  · rfl

variable (n : Nat)

/-- Of all numbers in decimal only zero begins with a zero, and nothing stands behind that. -/
theorem wholeDigits?_decimal : wholeDigits? (decimal n) = some (decimal n) := by
  have joined := joinDigits?_digits (fun c hc => Digits.isDigit_of_mem_decimal hc)
    (Digits.decimal_ne_nil n)
  have noZero : ¬ (1 < (decimal n).length ∧ (decimal n).head? = some '0') := by
    rintro ⟨long, zero⟩
    -- zero has a single digit, and any other number begins with one that is not zero
    by_cases isZero : n = 0
    · subst isZero
      exact absurd long (by decide)
    · exact Digits.head_decimal isZero '0' zero rfl
  rw [wholeDigits?, joined]
  simp only [Option.bind_eq_bind, Option.bind_some, if_neg noZero]

/-- **A number in decimal is an integer**, if 63 bits are enough for it. -/
theorem integer?_decimal : integer? (decimal n) = bounded? n := by
  have digit : ∀ c ∈ decimal n, c.isDigit := fun c hc => Digits.isDigit_of_mem_decimal hc
  unfold integer?
  -- the letter of another base would be the second digit
  split
  · next whole => exact absurd (digit 'x' (by simp [whole])) (by decide)
  · next whole => exact absurd (digit 'o' (by simp [whole])) (by decide)
  · next whole => exact absurd (digit 'b' (by simp [whole])) (by decide)
  · rw [splitSign_digits digit]
    simp only [wholeDigits?_decimal, Option.bind_eq_bind, Option.bind_some, Digits.value_decimal,
      Bool.false_eq_true, if_false]

/-- A float has a point or an exponent. -/
theorem float?_decimal : float? (decimal n) = none := by
  have digit : ∀ c ∈ decimal n, c.isDigit := fun c hc => Digits.isDigit_of_mem_decimal hc
  have noMark : (decimal n).takeWhile (fun c => !isExponentMark c) = decimal n := by
    refine List.takeWhile_eq_self_iff.mpr fun c hc => ?_
    have notMark := Digits.ne_of_isDigit (digit c hc)
    simp [isExponentMark, notMark 'e' rfl, notMark 'E' rfl]
  have noPoint : (decimal n).takeWhile (· ≠ '.') = decimal n := by
    refine List.takeWhile_eq_self_iff.mpr fun c hc => ?_
    exact decide_eq_true (Digits.ne_of_isDigit (digit c hc) '.' rfl)
  have noWord : ¬ (decimal n = ['i', 'n', 'f'] ∨ decimal n = ['n', 'a', 'n']) := by
    rintro (word | word)
    · exact absurd (digit 'i' (by simp [word])) (by decide)
    · exact absurd (digit 'n' (by simp [word])) (by decide)
  -- neither an exponent nor a point cuts the digits, so both rests are empty
  unfold float?
  rw [splitSign_digits digit]
  simp only [if_neg noWord, noMark, noPoint, wholeDigits?_decimal, Nat.lt_irrefl, decide_false,
    if_false, Option.bind_eq_bind, Option.bind_some, Bool.not_false,
    Bool.and_self, if_true]

/-- **A number with the end of its line behind it** is read as an integer. -/
theorem readRunValue_decimal (rest : List Char) :
    readRunValue (decimal n ++ '\n' :: rest) = (bounded? n).map (·, '\n' :: rest) := by
  have digit : ∀ c ∈ decimal n, c.isDigit := fun c hc => Digits.isDigit_of_mem_decimal hc
  have isRun : ∀ c ∈ decimal n, isRunChar c := by
    intro c hc
    have letter : c.isAlphanum := by simp [Char.isAlphanum, digit c hc]
    simp [isRunChar, letter]
  have run : (decimal n ++ '\n' :: rest).takeWhile isRunChar = decimal n := by
    rw [List.takeWhile_append_of_pos isRun, List.takeWhile_cons_of_neg (by decide), List.append_nil]
  have noWord : decimal n ≠ ['t', 'r', 'u', 'e'] ∧ decimal n ≠ ['f', 'a', 'l', 's', 'e'] := by
    constructor
    · intro word
      exact absurd (digit 't' (by simp [word])) (by decide)
    · intro word
      exact absurd (digit 'f' (by simp [word])) (by decide)
  have noDate : datetime? (decimal n) = none := by
    rw [datetime?, afterDay?_digits digit, afterTime?_digits digit]
  have whole : readRun (decimal n ++ '\n' :: rest) = (decimal n, '\n' :: rest) := by
    rw [readRun, run, afterDay?_digits digit, List.drop_left]
    rfl
  rw [readRunValue, whole]
  simp only [if_neg noWord.1, if_neg noWord.2, noDate, float?_decimal, integer?_decimal]

/-- A number, a date or a word: whatever begins with none of the marks of the other values. -/
theorem readValue_run {c : Char} (notText : c ≠ '"' ∧ c ≠ '\x27') (notArray : c ≠ '[')
    (notTable : c ≠ '\x7b') (steps levels : Nat) (cs : List Char) :
    readValue (steps + 1) levels (c :: cs) = readRunValue (c :: cs) := by
  rw [readValue.eq_def]
  simp only [notText.1, notText.2, notArray, notTable, decide_false, Bool.or_self,
    Bool.false_eq_true, if_false]

/-! ### Lines -/

/-- **One line** of a text, from what is in front of it to its end. -/
theorem readAll_line {steps : Nat} {header header' : List String} {whole whole' : Toml}
    {cs rest behind next : List Char} {c : Char} {line : Line}
    (begun : skipLines (cs.length + 1) cs = some (c :: rest))
    (read : readLine (c :: rest) = some (line, behind)) (ended : endLine behind = some next)
    (applied : applyLine header whole line = some (header', whole')) :
    readAll (steps + 1) header whole cs = readAll steps header' whole' next := by
  rw [readAll, begun]
  simp only [Option.bind_eq_bind, Option.bind_some, read, ended, applied]

/-- A line that is not understood makes the text none. -/
theorem readAll_refused {steps : Nat} {header : List String} {whole : Toml} {cs rest : List Char}
    {c : Char} (begun : skipLines (cs.length + 1) cs = some (c :: rest))
    (refused : readLine (c :: rest) = none) : readAll (steps + 1) header whole cs = none := by
  rw [readAll, begun]
  simp only [Option.bind_eq_bind, Option.bind_some, refused, Option.bind_none]

/-- A line that gives a key a number, a date or a word. -/
theorem readLine_value {front c : Char} {cs rest behind : List Char} {key : String}
    (path : readPath nestingLimit (front :: cs) = some ([key], '=' :: behind))
    (noHeader : front ≠ '[') (blank : skipBlank behind = c :: rest) (notText : c ≠ '"' ∧ c ≠ '\x27')
    (notArray : c ≠ '[') (notTable : c ≠ '\x7b') :
    readLine (front :: cs)
      = (readRunValue (c :: rest)).map fun (value, rest) => (.value [key] value, rest) := by
  unfold readLine
  -- the first two cases are the headers
  split
  · next header => exact absurd (List.cons.inj header).1 noHeader
  · next header => exact absurd (List.cons.inj header).1 noHeader
  · have run := readValue_run notText notArray notTable (2 * ('=' :: behind).length + 1)
      nestingLimit rest
    rw [path]
    simp only [Option.bind_eq_bind, Option.bind_some, after?, if_true, blank, run]
    cases readRunValue (c :: rest) <;> rfl

/-- The line of the limit. -/
theorem readLine_limit (rest : List Char) :
    readLine ("max_depth = ".toList ++ (decimal n ++ '\n' :: rest))
      = (bounded? n).map fun value => (.value ["max_depth"] value, '\n' :: rest) := by
  obtain ⟨c, cs, front, digit⟩ := Digits.exists_decimal_eq_cons n
  have notMark := Digits.ne_of_isDigit digit
  have run := readRunValue_decimal n rest
  rw [front, List.cons_append] at run ⊢
  have path : readPath nestingLimit ('m' :: ("ax_depth = ".toList ++ c :: (cs ++ '\n' :: rest)))
      = some (["max_depth"], '=' :: ' ' :: c :: (cs ++ '\n' :: rest)) := rfl
  have blank : skipBlank (' ' :: c :: (cs ++ '\n' :: rest)) = c :: (cs ++ '\n' :: rest) := by
    have notBlank : isBlank c = false := by simp [isBlank, notMark ' ' rfl, notMark '\t' rfl]
    rw [skipBlank, List.dropWhile_cons, if_pos (by decide), List.dropWhile_cons, notBlank]
    rfl
  have line := readLine_value path (by decide) blank ⟨notMark _ rfl, notMark _ rfl⟩ (notMark _ rfl)
    (notMark _ rfl)
  rw [run] at line
  refine line.trans ?_
  cases bounded? n <;> rfl

/-- The line of the switch. -/
theorem readLine_switch (b : Bool) (rest : List Char) :
    readLine ("color = ".toList ++ ((toString b).toList ++ '\n' :: rest))
      = some (.value ["color"] (.boolean b), '\n' :: rest) := by
  have run : readRunValue ((toString b).toList ++ '\n' :: rest)
      = some (.boolean b, '\n' :: rest) := by
    -- both words end where the line ends
    have word : readRun ((toString b).toList ++ '\n' :: rest)
        = ((toString b).toList, '\n' :: rest) := by cases b <;> rfl
    rw [readRunValue, word]
    cases b <;> rfl
  have path : readPath nestingLimit
      ('c' :: ("olor = ".toList ++ ((toString b).toList ++ '\n' :: rest)))
      = some (["color"], '=' :: ' ' :: ((toString b).toList ++ '\n' :: rest)) := by cases b <;> rfl
  cases b with
  | false =>
    have line := readLine_value path (by decide) rfl (by decide) (by decide) (by decide)
    exact line.trans (congrArg _ run)
  | true =>
    have line := readLine_value path (by decide) rfl (by decide) (by decide) (by decide)
    exact line.trans (congrArg _ run)

end Toml

namespace Settings

open Toml (readAll readAll_line readAll_refused)

/-- A settings file with both settings, line by line. -/
def text (s : Settings) : String :=
  "[compiler]\n" ++ ("max_depth = " ++ (toString s.depthLimit ++ ("\n" ++ ("\n[output]\n" ++
    ("color = " ++ (toString s.color ++ "\n"))))))

theorem toList_text (s : Settings) :
    s.text.toList = "[compiler]\n".toList ++ ("max_depth = ".toList ++
      (Digits.decimal s.depthLimit ++ '\n' :: ("\n[output]\n".toList ++ ("color = ".toList ++
        ((toString s.color).toList ++ ['\n']))))) := by
  have ended : "\n".toList = ['\n'] := by decide
  have number : (toString s.depthLimit).toList = Digits.decimal s.depthLimit := by
    rw [Nat.toString_eq_repr, Nat.toList_repr, Digits.decimal]
  simp only [text, String.toList_append, ended, number, List.cons_append, List.nil_append]

/-- The lines of the second section, and the end. -/
theorem readAll_output (steps : Nat) (limit : Toml) (b : Bool) :
    readAll (steps + 3) ["compiler"]
        (.table .headed [("compiler", .table .headed [("max_depth", limit)])])
        ("\n[output]\n".toList ++ ("color = ".toList ++ ((toString b).toList ++ ['\n'])))
      = some (.table .headed [("compiler", .table .headed [("max_depth", limit)]),
          ("output", .table .headed [("color", .boolean b)])]) := by
  rw [readAll_line rfl rfl rfl rfl, readAll_line rfl (Toml.readLine_switch b []) rfl rfl]
  rfl

/-- A number is not too small for an integer of TOML. -/
theorem bounded?_natCast (n : Nat) :
    Toml.bounded? n = if (n : Int) ≤ Int64.maxValue.toInt then some (.integer n) else none := by
  have least : Int64.minValue.toInt ≤ (n : Int) := by
    have negative : Int64.minValue.toInt ≤ 0 := by decide
    omega
  rw [Toml.bounded?]
  simp only [least, true_and]

/-- All lines of a settings file. -/
theorem readAll_text (steps : Nat) (s : Settings) :
    readAll (steps + 5) [] .empty s.text.toList = (Toml.bounded? s.depthLimit).map fun limit =>
      .table .headed [("compiler", .table .headed [("max_depth", limit)]),
        ("output", .table .headed [("color", .boolean s.color)])] := by
  have header (rest : List Char) : Toml.readLine ("[compiler]\n".toList ++ rest)
      = some (.table ["compiler"], '\n' :: rest) := rfl
  rw [toList_text, readAll_line rfl (header _) rfl rfl]
  -- behind the header of the first section stands the line of the limit
  have read := Toml.readLine_limit s.depthLimit
    ("\n[output]\n".toList ++ ("color = ".toList ++ ((toString s.color).toList ++ ['\n'])))
  cases bound : Toml.bounded? s.depthLimit with
  | none =>
    rw [bound] at read
    exact readAll_refused rfl read
  | some limit =>
    rw [bound] at read
    rw [readAll_line rfl read rfl rfl]
    exact readAll_output steps limit s.color

/-- The settings of the table that a settings file defines. -/
theorem ofToml?_table (s : Settings) :
    ofToml? (.table .headed
      [("compiler", .table .headed [("max_depth", .integer s.depthLimit)]),
        ("output", .table .headed [("color", .boolean s.color)])]) = some s := by
  have notNegative : (0 : Int) ≤ s.depthLimit := Int.natCast_nonneg _
  simp [ofToml?, Toml.valueOf?, List.lookup_cons, setting?, limit?, switch?, notNegative]

/-- **The settings of a file are those that were written to it**, if the limit fits into 64 bits
with their sign. With any greater limit there are none. -/
theorem read?_text (s : Settings) :
    read? s.text = if (s.depthLimit : Int) ≤ Int64.maxValue.toInt then some s else none := by
  obtain ⟨steps, enough⟩ : ∃ steps, s.text.toList.length + 1 = steps + 5 := by
    refine ⟨s.text.toList.length - 4, ?_⟩
    have long : 4 ≤ "[compiler]\n".toList.length := by decide
    rw [toList_text, List.length_append]
    omega
  have noMark : Toml.dropMark s.text.toList = s.text.toList := by
    rw [toList_text]
    rfl
  -- there is a step for each character, and so more than enough for the lines
  have whole := readAll_text steps s
  rw [bounded?_natCast] at whole
  simp only [read?, Toml.read, noMark, enough, whole]
  -- the limit is the only part of the text that can be refused
  by_cases fits : (s.depthLimit : Int) ≤ Int64.maxValue.toInt
  · rw [if_pos fits, if_pos fits, Option.map_some]
    exact ofToml?_table s
  · rw [if_neg fits, if_neg fits]
    rfl

end Settings

end SqlFilter
