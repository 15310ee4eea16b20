import SqlFilter.Json.Fault
import SqlFilter.Json.Number

/-!
# Reading JSON

A text is read from left to right by functions that take the text still unread and return what
follows the part they read. Only a bounded number of lists and objects may be open at a time; the
bound is a parameter of the reader, `Json.levels` for documents.

Reading nested values counts down a supply of steps that is twice the length of the text, which is
more than it takes: two steps in a row read at least one character.
-/

namespace SqlFilter

namespace Json

/-- The blanks of JSON. -/
def isBlank (c : Char) : Bool := c = ' ' || c = '\t' || c = '\n' || c = '\r'

/-- The text from the first character on that is not blank. -/
def skipBlank (cs : List Char) : List Char := cs.dropWhile isBlank

/-! ### Strings -/

/-- The value of a hexadecimal digit, in either case. -/
def hexValue? (c : Char) : Option Nat :=
  if '0' ≤ c ∧ c ≤ '9' then some (c.toNat - '0'.toNat)
  else if 'a' ≤ c ∧ c ≤ 'f' then some (c.toNat - 'a'.toNat + 10)
  else if 'A' ≤ c ∧ c ≤ 'F' then some (c.toNat - 'A'.toNat + 10)
  else none

/-- The number that four hexadecimal digits write. -/
def readHex (cs : List Char) : Except Fault (Nat × List Char) :=
  -- a reader of octets asks for four of them first, and for digits only then
  if octets (cs.take 4) < 4 then .error (.before .unfinishedString [])
  else
    match cs with
    | a :: b :: c :: d :: rest =>
      match hexValue? a, hexValue? b, hexValue? c, hexValue? d with
      | some a, some b, some c, some d => .ok (((a * 16 + b) * 16 + c) * 16 + d, rest)
      | _, _, _, _ => .error ⟨.invalidEscape, cs, 4⟩
    | cs => .error ⟨.invalidEscape, cs, 4⟩

/-- The surrogates, which write a character in two halves. -/
def isLeading (n : Nat) : Bool := 0xD800 ≤ n && n < 0xDC00

@[inherit_doc isLeading]
def isTrailing (n : Nat) : Bool := 0xDC00 ≤ n && n < 0xE000

/-- The second half of a character, after a leading surrogate. -/
def readTrailing (leading : Nat) : List Char → Except Fault (Char × List Char)
  | [] => .error (.before .unfinishedString [])
  | '\\' :: [] => .error (.before .unfinishedString [])
  | '\\' :: 'u' :: rest => do
    let (trailing, rest) ← readHex rest
    if isTrailing trailing then
      .ok (Char.ofNat (0x10000 + (leading - 0xD800) * 0x400 + (trailing - 0xDC00)), rest)
    else .error (.before .loneSurrogate rest)
  | '\\' :: rest => .error (.here .unfinishedSurrogates rest)
  | rest => .error (.here .unfinishedSurrogates rest)

/-- The character that an escape writes, after its backslash. -/
def readEscape : List Char → Except Fault (Char × List Char)
  | [] => .error (.before .unfinishedString [])
  | 'u' :: rest => do
    let (n, rest) ← readHex rest
    if isTrailing n then .error (.before .loneSurrogate rest)
    else if isLeading n then readTrailing n rest
    else .ok (Char.ofNat n, rest)
  | c :: rest =>
    match c with
    | '"' => .ok ('"', rest)
    | '\\' => .ok ('\\', rest)
    | '/' => .ok ('/', rest)
    | 'b' => .ok ('\x08', rest)
    | 'f' => .ok ('\x0c', rest)
    | 'n' => .ok ('\n', rest)
    | 'r' => .ok ('\r', rest)
    | 't' => .ok ('\t', rest)
    | _ => .error (.here .invalidEscape (c :: rest))

theorem length_of_readHex {cs rest : List Char} {n : Nat} (h : readHex cs = .ok (n, rest)) :
    rest.length < cs.length := by
  unfold readHex at h
  split at h
  · contradiction
  · split at h
    · split at h
      · simp only [Except.ok.injEq, Prod.mk.injEq] at h
        simp only [← h.2, List.length_cons]
        omega
      · contradiction
    · contradiction

theorem length_of_readTrailing {leading : Nat} {cs rest : List Char} {c : Char}
    (h : readTrailing leading cs = .ok (c, rest)) : rest.length < cs.length := by
  unfold readTrailing at h
  split at h
  · contradiction
  · contradiction
  · next text =>
    cases hex : readHex text with
    | error e => simp [hex, bind, Except.bind] at h
    | ok result =>
      obtain ⟨trailing, left⟩ := result
      have lt := length_of_readHex hex
      simp only [hex, bind, Except.bind] at h
      split at h
      · simp only [Except.ok.injEq, Prod.mk.injEq] at h
        simp only [← h.2, List.length_cons]
        omega
      · contradiction
  · contradiction
  · contradiction

theorem length_of_readEscape {cs rest : List Char} {c : Char}
    (h : readEscape cs = .ok (c, rest)) : rest.length < cs.length := by
  unfold readEscape at h
  split at h
  · contradiction
  · next text =>
    cases hex : readHex text with
    | error e => simp [hex, bind, Except.bind] at h
    | ok result =>
      obtain ⟨n, left⟩ := result
      have lt := length_of_readHex hex
      simp only [hex, bind, Except.bind] at h
      split at h
      · contradiction
      · split at h
        · have := length_of_readTrailing h
          simp only [List.length_cons]
          omega
        · simp only [Except.ok.injEq, Prod.mk.injEq] at h
          simp only [← h.2, List.length_cons]
          omega
  · split at h
    all_goals first | contradiction | skip
    all_goals
      simp only [Except.ok.injEq, Prod.mk.injEq] at h
      simp [← h.2]

/-- The rest of a string, after its opening quote; `read` holds what was read of it, the latest
character first. -/
def readString (read : List Char) (cs : List Char) : Except Fault (String × List Char) :=
  match cs with
  | [] => .error (.before .unfinishedString [])
  | '"' :: rest => .ok (String.ofList read.reverse, rest)
  | '\\' :: rest =>
    match _escape : readEscape rest with
    | .error fault => .error fault
    | .ok (c, rest) => readString (c :: read) rest
  | c :: rest =>
    if c.toNat < 0x20 then .error (.here .controlCharacter (c :: rest))
    else readString (c :: read) rest
termination_by cs.length
decreasing_by
  · have := length_of_readEscape _escape
    simp only [List.length_cons]
    omega
  · simp

/-! ### Numbers and words -/

/-- The digits at the beginning of a text, and the text after them. -/
def readDigits (cs : List Char) : List Char × List Char :=
  (cs.takeWhile Char.isDigit, cs.dropWhile Char.isDigit)

/-- The digits before the decimal point: no zero stands in front of others. -/
def readWhole : List Char → Except Fault (List Char × List Char)
  | [] => .error (.before .unfinishedValue [])
  | '0' :: rest =>
    match rest with
    | c :: _ =>
      -- a digit behind a leading zero is the fault, not the end of the number
      if c.isDigit then .error (.here .invalidNumber rest) else .ok (['0'], rest)
    | [] => .ok (['0'], [])
  | c :: rest =>
    if c.isDigit then .ok (readDigits (c :: rest)) else .error (.here .invalidNumber (c :: rest))

/-- At least one digit. -/
def readSomeDigits (cs : List Char) : Except Fault (List Char × List Char) :=
  let (digits, rest) := readDigits cs
  if digits.isEmpty then
    if rest.isEmpty then .error (.before .unfinishedValue [])
    else .error (.here .invalidNumber rest)
  else .ok (digits, rest)

/-- The digits behind the decimal point, if there is one. -/
def readFraction : List Char → Except Fault (Option (List Char) × List Char)
  | '.' :: rest => do
    let (digits, rest) ← readSomeDigits rest
    .ok (some digits, rest)
  | rest => .ok (none, rest)

/-- The exponent, if there is one. -/
def readExponent : List Char → Except Fault (Option (Bool × List Char) × List Char)
  | [] => .ok (none, [])
  | c :: rest =>
    if c = 'e' ∨ c = 'E' then do
      let (downward, rest) := match rest with
        | '+' :: rest => (false, rest)
        | '-' :: rest => (true, rest)
        | rest => (false, rest)
      let (digits, rest) ← readSomeDigits rest
      .ok (some (downward, digits), rest)
    else .ok (none, c :: rest)

/-- A number, after its sign. -/
def readNumber (negative : Bool) (cs : List Char) : Except Fault (Json × List Char) := do
  let (whole, rest) ← readWhole cs
  let (fraction, rest) ← readFraction rest
  let (exponent, rest) ← readExponent rest
  let numeral : Numeral := ⟨negative, whole, fraction, exponent⟩
  match numeral.value with
  | .ok value => .ok (value, rest)
  | .error read =>
    let digits := (exponent.map Prod.snd).getD []
    -- the digits of the exponent are read one by one, up to the one that is too much
    .error (.before .numberTooGreat (digits.drop read ++ rest))

/-- The letters of a word. -/
def readWord : List Char → List Char → Except Fault (List Char)
  | [], rest => .ok rest
  | _ :: _, [] => .error (.before .unfinishedValue [])
  | letter :: letters, c :: rest =>
    if c = letter then readWord letters rest else .error (.here .expectedWord (c :: rest))

/-! ### Lists and objects -/

/-- What follows within a list or an object. -/
inductive Next where
  /-- It has ended. -/
  | done (rest : List Char)
  /-- An item or a field follows. -/
  | more (rest : List Char)

/-- What follows within a list, after its opening bracket or after an item. -/
def nextItem (first : Bool) (cs : List Char) : Except Fault Next :=
  match skipBlank cs with
  | [] => .error (.before .unfinishedList [])
  | c :: rest =>
    if c = ']' then .ok (.done rest)
    -- in front of the first item there is no comma, and a comma itself is no value
    else if first then .ok (.more (c :: rest))
    else if c = ',' then
      match skipBlank rest with
      | [] => .error (.before .unfinishedValue [])
      | d :: rest =>
        -- a comma announces another item
        if d = ']' then .error (.here .trailingComma (d :: rest)) else .ok (.more (d :: rest))
    else .error (.here .expectedItemEnd (c :: rest))

/-- What follows within an object, after its opening brace or after a field; if a field follows,
the quote that opens its name has been read. -/
def nextField (first : Bool) (cs : List Char) : Except Fault Next :=
  match skipBlank cs with
  | [] => .error (.before .unfinishedObject [])
  | c :: rest =>
    if c = '\x7d' then .ok (.done rest)
    else if first then
      if c = '"' then .ok (.more rest) else .error (.here .nameNotString (c :: rest))
    else if c = ',' then
      match skipBlank rest with
      | [] => .error (.before .unfinishedValue [])
      | d :: rest =>
        if d = '"' then .ok (.more rest)
        else if d = '\x7d' then .error (.here .trailingComma (d :: rest))
        else .error (.here .nameNotString (d :: rest))
    else .error (.here .expectedFieldEnd (c :: rest))

/-- The colon between a name and its value. -/
def readColon (cs : List Char) : Except Fault (List Char) :=
  match skipBlank cs with
  | [] => .error (.before .unfinishedObject [])
  | c :: rest => if c = ':' then .ok rest else .error (.here .expectedColon (c :: rest))

mutual

/-- A value. At most `levels` lists and objects may be open within it. -/
def readValue : Nat → Nat → List Char → Except Fault (Json × List Char)
  | 0, _, cs => .error (.before .unfinishedValue cs)
  | steps + 1, levels, cs =>
    match skipBlank cs with
    | [] => .error (.before .unfinishedValue [])
    | c :: rest =>
      if c = '"' then do
        let (s, rest) ← readString [] rest
        .ok (.text s, rest)
      else if c = '[' then
        match levels with
        | 0 => .error (.here .tooDeep (c :: rest))
        | levels + 1 => readItems steps levels [] rest
      else if c = '\x7b' then
        match levels with
        | 0 => .error (.here .tooDeep (c :: rest))
        | levels + 1 => readFields steps levels [] rest
      else if c = 'n' then do .ok (.null, ← readWord ['u', 'l', 'l'] rest)
      else if c = 't' then do .ok (.bool true, ← readWord ['r', 'u', 'e'] rest)
      else if c = 'f' then do .ok (.bool false, ← readWord ['a', 'l', 's', 'e'] rest)
      else if c = '-' then readNumber true rest
      else if c.isDigit then readNumber false (c :: rest)
      else .error (.here .expectedValue (c :: rest))

/-- The rest of a list; `read` holds its items so far, the latest first. -/
def readItems : Nat → Nat → List Json → List Char → Except Fault (Json × List Char)
  | 0, _, _, cs => .error (.before .unfinishedList cs)
  | steps + 1, levels, read, cs => do
    match ← nextItem read.isEmpty cs with
    | .done rest => .ok (.list read.reverse, rest)
    | .more rest =>
      let (item, rest) ← readValue steps levels rest
      readItems steps levels (item :: read) rest

/-- The rest of an object; `read` holds its fields so far, the latest first. -/
def readFields : Nat → Nat → List (String × Json) → List Char → Except Fault (Json × List Char)
  | 0, _, _, cs => .error (.before .unfinishedObject cs)
  | steps + 1, levels, read, cs => do
    match ← nextField read.isEmpty cs with
    | .done rest => .ok (.object (keepLast read), rest)
    | .more rest =>
      let (name, rest) ← readString [] rest
      let rest ← readColon rest
      let (value, rest) ← readValue steps levels rest
      readFields steps levels ((name, value) :: read) rest

end

/-- How many lists and objects of a document may be open at a time. -/
def levels : Nat := 127

/-- A text that holds one value and nothing else, or its first fault. -/
def readAll (levels : Nat) (text : List Char) : Except Fault Json := do
  -- a step that takes no character is followed by one that does
  let (value, rest) ← readValue (2 * text.length + 2) levels text
  match skipBlank rest with
  | [] => .ok value
  | c :: rest => .error (.here .trailingText (c :: rest))

/-- **The value of a text**, or what is wrong with it and where. -/
def read (levels : Nat) (text : String) : Except TextError Json :=
  match readAll levels text.toList with
  | .ok value => .ok value
  | .error fault => .error (fault.toError text.toList)

end Json

end SqlFilter
