import SqlFilter.Text.Basic

/-!
# Universally unique identifiers

A `Uuid` is a run of thirty-two hexadecimal digits. It is written in lower case in five groups
joined by hyphens, and read in four forms, in either case: the digits alone, the groups, the groups
in braces, and the groups behind `urn:uuid:`.

`Uuid.diagnose` says what is wrong with a text that has none of these forms.
-/

namespace SqlFilter

/-- An identifier of 128 bits, as its hexadecimal digits. -/
structure Uuid where
  digits : List (Fin 16)
  length_eq : digits.length = 32
deriving DecidableEq

namespace Uuid

/-- The character of a hexadecimal digit, in lower case. -/
def digitChar (d : Fin 16) : Char :=
  if d.val < 10 then Char.ofNat ('0'.toNat + d.val) else Char.ofNat ('a'.toNat + (d.val - 10))

/-- The hexadecimal digit that a character writes, in either case. -/
def digit? (c : Char) : Option (Fin 16) :=
  if '0' ≤ c ∧ c ≤ '9' then some (Fin.ofNat 16 (c.toNat - '0'.toNat))
  else if 'a' ≤ c ∧ c ≤ 'f' then some (Fin.ofNat 16 (c.toNat - 'a'.toNat + 10))
  else if 'A' ≤ c ∧ c ≤ 'F' then some (Fin.ofNat 16 (c.toNat - 'A'.toNat + 10))
  else none

@[simp] theorem digit?_digitChar (d : Fin 16) : digit? (digitChar d) = some d := by
  revert d; decide

/-! ### Writing -/

/-- The lengths of the five groups. -/
def groups : List Nat := [8, 4, 4, 4, 12]

/-- Text cut into groups of the given lengths, a hyphen before each. -/
def hyphenate : List Nat → List Char → List Char
  | [], _ => []
  | n :: ns, cs => '-' :: cs.take n ++ hyphenate ns (cs.drop n)

/-- **The written form**: five groups of lower-case digits. -/
def toList (u : Uuid) : List Char := (hyphenate groups (u.digits.map digitChar)).drop 1

/-! ### Reading -/

/-- The identifier of thirty-two digits. -/
def ofDigits? (digits : List (Fin 16)) : Option Uuid :=
  if h : digits.length = 32 then some ⟨digits, h⟩ else none

/-- The identifier that thirty-two characters write without hyphens. -/
def ofPlain? (cs : List Char) : Option Uuid := (cs.mapM digit?).bind ofDigits?

/-- The digits of groups of the given lengths, with a hyphen before each. -/
def groupDigits? : List Nat → List Char → Option (List (Fin 16))
  | [], [] => some []
  | n :: ns, '-' :: cs => do
    let head ← (cs.take n).mapM digit?
    let tail ← groupDigits? ns (cs.drop n)
    if head.length = n then some (head ++ tail) else none
  | _, _ => none

/-- The identifier that five hyphenated groups write. -/
def ofGroups? (cs : List Char) : Option Uuid :=
  (groupDigits? groups ('-' :: cs)).bind ofDigits?

/-- The name of the scheme that may stand before the groups, in either case. -/
def scheme : List Char := ['u', 'r', 'n', ':', 'u', 'u', 'i', 'd', ':']

/-- What follows the scheme, if the text begins with it. -/
def dropScheme? (cs : List Char) : Option (List Char) :=
  if (cs.take scheme.length).map Char.toLower = scheme then some (cs.drop scheme.length) else none

/-- What stands between braces, if the text begins and ends with them. -/
def dropBraces? : List Char → Option (List Char)
  | '\x7b' :: rest =>
    if rest.getLast? = some '\x7d' then some rest.dropLast else none
  | _ => none

/-- The identifier that a text writes in one of the four forms. -/
def ofList? (cs : List Char) : Option Uuid :=
  match ofPlain? cs with
  | some u => some u
  | none =>
    match ofGroups? cs with
    | some u => some u
    | none =>
      match dropBraces? cs with
      | some inner => ofGroups? inner
      | none => (dropScheme? cs).bind ofGroups?

/-! ### Diagnosis -/

/-- Why a text is no identifier. -/
inductive ReadError where
  /-- A character, at an octet, that is neither a digit nor a hyphen. -/
  | character (found : Char) (position : Nat)
  /-- Digits without hyphens, but not thirty-two of them, or a text longer than every form. -/
  | length (found : Nat)
  /-- Hyphens, but not four. -/
  | groupCount (found : Nat)
  /-- Five groups, of which one has the wrong length. -/
  | groupLength (group expected found : Nat)
deriving DecidableEq, Repr

/-- The wording of a reading error. -/
def ReadError.message : ReadError → String
  | .character found position =>
    "invalid character: found \x60" ++ found.toString ++ "\x60 at " ++ toString position
  | .length found => "invalid length: found " ++ toString found
  | .groupCount found => "invalid group count: expected 5, found " ++ toString found
  | .groupLength group expected found =>
    "invalid group length in group " ++ toString group ++ ": expected " ++ toString expected ++
      ", found " ++ toString found

/-- The first character that is neither a digit nor a hyphen, with its octet, counting the octets
before the text as `position`. -/
def stranger? (position : Nat) : List Char → Option (Char × Nat)
  | [] => none
  | c :: rest =>
    if c = '-' ∨ (digit? c).isSome then stranger? (position + c.utf8Size) rest
    else some (c, position)

/-- The octets at which hyphens stand. -/
def hyphens (position : Nat) : List Char → List Nat
  | [] => []
  | c :: rest =>
    let more := hyphens (position + c.utf8Size) rest
    if c = '-' then position :: more else more

/-- The first of the first four groups that does not end at its place, given the places where
groups ended and the place where the next one starts. -/
def misplaced? (group start : Nat) : List Nat → List Nat → Option ReadError
  | n :: ns, place :: places =>
    if place = start + n then misplaced? (group + 1) (start + n + 1) ns places
    else some (.groupLength group n (place - start))
  | _, _ => none

/-- The octets of the longest form, that with the scheme. -/
def longestForm : Nat := 45

/-- The part of a text to be judged, the octets counted before it, and whether it is taken for a run
of digits if it has no hyphen. A text as long as one of the hyphenated forms is judged as that form,
and its octets are counted from the first of its digits. Any other text is judged between its braces
or behind its scheme, and its octets are counted from its own beginning; without either it stands
alone. -/
def judged (cs : List Char) : List Char × Nat × Bool :=
  if octets cs = 36 then (cs, 0, false)
  else
    match dropBraces? cs with
    | some inner => (inner, if octets cs = 38 then 0 else 1, false)
    | none =>
      match dropScheme? cs with
      | some inner => (inner, if octets cs = longestForm then 0 else scheme.length, false)
      | none => (cs, 0, true)

/-- **What is wrong** with a text that has none of the four forms. A text longer than each of them
has the wrong length. Of any other, a wrong character comes first; then the number of hyphens; then
the first group of the wrong length. -/
def diagnose (cs : List Char) : ReadError :=
  if longestForm < octets cs then .length (octets cs)
  else
    let (inner, offset, plain) := judged cs
    match stranger? offset inner with
    | some (c, position) => .character c position
    | none =>
      let places := hyphens 0 inner
      if places.isEmpty && plain then .length (octets cs)
      else if places.length ≠ 4 then .groupCount (places.length + 1)
      else
        match misplaced? 0 0 groups places with
        | some e => e
        -- the first four groups and their hyphens take twenty-four octets
        | none => .groupLength 4 12 (octets cs - 24)

/-- The identifier that a text writes, or what is wrong with it. -/
def read (cs : List Char) : Except ReadError Uuid :=
  match ofList? cs with
  | some u => .ok u
  | none => .error (diagnose cs)

end Uuid

end SqlFilter
