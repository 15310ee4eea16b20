import SqlFilter.Expression.Basic
import SqlFilter.Json.Mismatch

/-!
# Expressions as JSON

An expression is an object with the fields `left`, `op` and `right`, of which the last may be
missing or null and any others are ignored, or a list of the same parts in this order. An operator
is its name. Terms and scalars are objects of one field, named for the kind, that holds the
payload.

Encoding writes the object form with all three fields. Decoding accepts every form, and reports the
first fault among `left`, `op` and `right`.
-/

namespace SqlFilter

open Json (Mismatch mismatch field?)

/-! ### Encoding -/

/-- A scalar, under the name of its kind. -/
def Scalar.toJson : Scalar → Json
  | .text s => .object [("Text", .text s)]
  | .int n => .object [("Int", .int n.toInt)]
  | .float x => .object [("Float", .float x)]
  | .bool b => .object [("Bool", .bool b)]
  | .uuid u => .object [("Uuid", .text (String.ofList u.toList))]
  | .timestamp t => .object [("Timestamp", .text (String.ofList t.isoText))]

/-- An operator, by name. -/
def Operator.toJson (op : Operator) : Json := .text op.name

mutual

/-- A term, under the name of its kind. -/
def Term.toJson : Term → Json
  | .column name => .object [("Column", .text name)]
  | .scalar value => .object [("Scalar", value.toJson)]
  | .list items => .object [("List", .list (items.map Scalar.toJson))]
  | .nested inner => .object [("Nested", inner.toJson)]

/-- **An expression**, as an object of three fields; a missing right term is null. -/
def Expression.toJson : Expression → Json
  | .binary left op right =>
    .object [("left", left.toJson), ("op", op.toJson), ("right", right.toJson)]
  | .unary left op => .object [("left", left.toJson), ("op", op.toJson), ("right", .null)]

end

/-! ### Decoding -/

namespace Json

/-- A string. -/
def asText : Json → Except Mismatch String
  | .text s => .ok s
  | other => mismatch other .text

/-- An integer of 64 bits. -/
def asInt : Json → Except Mismatch Int64
  | .int n =>
    if Int64.minValue.toInt ≤ n ∧ n ≤ Int64.maxValue.toInt then .ok (Int64.ofInt n)
    else .error (.value (.int n) .integer)
  | other => mismatch other .integer

/-- The floating-point number next to an integer of 64 bits, signed or unsigned. -/
def floatOfInt (n : Int) : Float :=
  if 0 ≤ n then (UInt64.ofNat n.toNat).toFloat else (Int64.ofInt n).toFloat

/-- A floating-point number; every number is one. -/
def asFloat : Json → Except Mismatch Float
  | .float x => .ok x
  | .int n => .ok (floatOfInt n)
  | other => mismatch other .float

def asBool : Json → Except Mismatch Bool
  | .bool b => .ok b
  | other => mismatch other .boolean

/-- A string that has to be read in its turn, with what its own reader may find wrong. -/
def asRead {ε α : Type} (read : List Char → Except ε α) (wrong : ε → Mismatch)
    (wanted : Json.Wanted) : Json → Except Mismatch α
  | .text s => (read s.toList).mapError wrong
  | other => mismatch other wanted

/-- An identifier in any of its written forms. -/
def asUuid : Json → Except Mismatch Uuid := asRead Uuid.read .uuid .uuid

/-- A timestamp. -/
def asTimestamp : Json → Except Mismatch Timestamp :=
  asRead Timestamp.read .timestamp .timestamp

/-- One of several names, with its payload: a string is a name without, an object of one field a
name with payload. -/
def choice : Json → Except Mismatch (String × Option Json)
  | .text name => .ok (name, none)
  | .object [(name, payload)] => .ok (name, some payload)
  | .object _ => .error (.value .object .singleField)
  | other => mismatch other .choice

/-- One of several names that take no payload; null is none. -/
def asName {α : Type} (ofName? : String → Option α) (known : List String) (value : Json) :
    Except Mismatch α := do
  let (name, payload) ← choice value
  match ofName? name with
  | none => .error (.unknownName name known)
  | some a =>
    match payload with
    -- a name alone has no payload, and a null in its place is as good
    | none | some .null => .ok a
    | some other => mismatch other .nothing

/-- The payload of one of several names that all take one. -/
def needPayload (known : List String) (name : String) (payload : Option Json) :
    Except Mismatch Json :=
  if name ∈ known then
    match payload with
    | some value => .ok value
    | none => .error (.kind .bareName .payload)
  else .error (.unknownName name known)

end Json

/-- An operator by name. -/
def Operator.ofJson : Json → Except Mismatch Operator :=
  Json.asName Operator.ofName? (Operator.all.map Operator.name)

/-- A joiner by name. -/
def Joiner.ofJson : Json → Except Mismatch Joiner :=
  Json.asName Joiner.ofName? (Joiner.all.map Joiner.name)

/-- A direction of sorting by name. -/
def SortOrder.ofJson : Json → Except Mismatch SortOrder :=
  Json.asName SortOrder.ofName? (SortOrder.all.map SortOrder.name)

/-- The names of the kinds of scalars. -/
def Scalar.jsonNames : List String := ["Text", "Int", "Float", "Bool", "Uuid", "Timestamp"]

/-- A scalar. -/
def Scalar.ofJson (value : Json) : Except Mismatch Scalar := do
  let (name, payload) ← value.choice
  let payload ← Json.needPayload Scalar.jsonNames name payload
  match name with
  | "Text" => Scalar.text <$> payload.asText
  | "Int" => Scalar.int <$> payload.asInt
  | "Float" => Scalar.float <$> payload.asFloat
  | "Bool" => Scalar.bool <$> payload.asBool
  | "Uuid" => Scalar.uuid <$> payload.asUuid
  | _ => Scalar.timestamp <$> payload.asTimestamp

/-- A list of scalars. -/
def Scalar.listOfJson : Json → Except Mismatch (List Scalar)
  | .list items => items.mapM Scalar.ofJson
  | other => mismatch other .list

/-- The names of the kinds of terms. -/
def Term.jsonNames : List String := ["Column", "Scalar", "List", "Nested"]

/-- A term that nests no expression. -/
def Term.flatOfJson (value : Json) : Except Mismatch Term := do
  let (name, payload) ← value.choice
  let payload ← Json.needPayload Term.jsonNames name payload
  match name with
  | "Column" => Term.column <$> payload.asText
  | "Scalar" => Term.scalar <$> Scalar.ofJson payload
  | _ => Term.list <$> Scalar.listOfJson payload

mutual

/-- A term. -/
def Term.ofJson (value : Json) : Except Mismatch Term :=
  match value with
  | .object [(name, payload)] =>
    if name = "Nested" then Term.nested <$> Expression.ofJson payload
    else Term.flatOfJson (.object [(name, payload)])
  | other => Term.flatOfJson other
termination_by sizeOf value
decreasing_by
  simp
  omega

/-- A right term, which may be null. -/
def Term.optionalOfJson (value : Json) : Except Mismatch (Option Term) :=
  match value with
  | .null => .ok none
  | other => some <$> Term.ofJson other
termination_by sizeOf value + 1

/-- **An expression**, in the form of an object or of a list. -/
def Expression.ofJson (value : Json) : Except Mismatch Expression :=
  match value with
  | .object fields => do
    let left ← match _found : field? "left" fields with
      | some left => some <$> Term.ofJson left
      | none => .ok none
    let op ← match field? "op" fields with
      | some op => some <$> Operator.ofJson op
      | none => .ok none
    let right ← match _found : field? "right" fields with
      | some right => Term.optionalOfJson right
      | none => .ok none
    match left, op with
    | none, _ => .error (.missingField "left")
    | some _, none => .error (.missingField "op")
    | some left, some op => .ok (Expression.ofParts left op right)
  | .list [] => .error (.tooFew 0)
  | .list [left] => do
    -- a fault of the only part comes before the parts that are missing
    let _ ← Term.ofJson left
    .error (.tooFew 1)
  | .list [left, op] => do
    let left ← Term.ofJson left
    let op ← Operator.ofJson op
    .ok (.unary left op)
  | .list (left :: op :: right :: rest) => do
    let left ← Term.ofJson left
    let op ← Operator.ofJson op
    let right ← Term.optionalOfJson right
    -- the three parts are decoded before there is a look at others
    if rest.isEmpty then .ok (Expression.ofParts left op right)
    else .error (.tooMany (rest.length + 3))
  | other => mismatch other .expression
termination_by sizeOf value
decreasing_by
  all_goals first
    | (have lt := Json.sizeOf_field? _found; simp; omega)
    | (simp; omega)

end

end SqlFilter
