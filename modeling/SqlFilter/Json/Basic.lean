/-!
# JSON values

A number is an integer if its text is one that fits into 64 bits, signed or unsigned, and a
floating-point number otherwise. The fields of an object have distinct names; their order is that of
the text and means nothing.
-/

namespace SqlFilter

/-- A JSON value. -/
inductive Json where
  | null
  | bool (value : Bool)
  | int (value : Int)
  | float (value : Float)
  | text (value : String)
  | list (items : List Json)
  | object (fields : List (String × Json))
deriving Inhabited

namespace Json

/-- The field of the given name. -/
def field? (name : String) (fields : List (String × Json)) : Option Json :=
  (fields.find? fun field => field.1 = name).map Prod.snd

/-- A field is smaller than the object it belongs to. -/
theorem sizeOf_field? {name : String} {fields : List (String × Json)} {value : Json}
    (h : field? name fields = some value) : sizeOf value < sizeOf fields := by
  obtain ⟨field, found, rfl⟩ := Option.map_eq_some_iff.1 h
  have lt := List.sizeOf_lt_of_mem (List.mem_of_find?_eq_some found)
  have : sizeOf field = 1 + sizeOf field.1 + sizeOf field.2 := Prod.mk.sizeOf_spec _ _
  omega

/-- Of fields given with the latest first, those that no later one of the same name replaces, in
the order of the text. -/
def keepLast (latestFirst : List (String × Json)) : List (String × Json) :=
  latestFirst.foldl
    (fun kept field => if kept.any (·.1 == field.1) then kept else field :: kept) []

end Json

end SqlFilter
