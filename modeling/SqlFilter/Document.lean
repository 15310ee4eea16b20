import SqlFilter.Expression.Build
import SqlFilter.Expression.Json
import SqlFilter.Json.Reader

/-!
# Filter documents

A document is a JSON text. It holds an expression, or a **group**: an object whose only field is
`all` or `any`, with a list of documents. A group becomes the chain of its items, joined by `AND` or
`OR`. A group of no items means no filter at all, and may stand for the whole document but not
within another group.
-/

namespace SqlFilter

/-- Why a document gives no filter. -/
inductive DocumentError where
  /-- The document is null. -/
  | nullDocument
  /-- The list of a group is null. -/
  | nullGroup (joiner : Joiner)
  /-- The list of a group is not a list. -/
  | notList (joiner : Joiner)
  /-- A group of no items stands within a group. -/
  | emptyGroup (joiner : Joiner)
  /-- The text is not JSON. -/
  | text (cause : Json.TextError)
  /-- A value is not an expression. -/
  | shape (cause : Json.Mismatch)

namespace DocumentError

/-- Whether the error is that an argument is missing, and not that one is malformed. -/
def isMissing : DocumentError → Bool
  | .nullDocument | .nullGroup _ => true
  | _ => false

/-- What is wrong. -/
def detail : DocumentError → String
  | .nullDocument => "filter document is null"
  | .nullGroup joiner => "'" ++ joiner.groupKey ++ "' list is null"
  | .notList joiner => "'" ++ joiner.groupKey ++ "' must be a list"
  | .emptyGroup joiner => "empty group inside '" ++ joiner.groupKey ++ "'"
  | .text cause => cause.message
  | .shape cause => cause.message

/-- The wording of an error. -/
def message (e : DocumentError) : String :=
  (if e.isMissing then "Invalid argument: " else "Document error: ") ++ e.detail

end DocumentError

namespace Document

/-- The joiner of the groups with the given key. -/
def groupJoiner? (key : String) : Option Joiner := Joiner.all.find? fun j => j.groupKey = key

/-- A document that is no group. -/
def leaf (value : Json) : Except DocumentError (Option Expression) :=
  match Expression.ofJson value with
  | .ok e => .ok (some e)
  | .error cause => .error (.shape cause)

mutual

/-- **The filter of a document.** A group of no items has none. -/
def ofJson : Json → Except DocumentError (Option Expression)
  | .null => .error .nullDocument
  | .object [(key, content)] =>
    match groupJoiner? key with
    | none => leaf (.object [(key, content)])
    | some joiner =>
      match content with
      | .null => .error (.nullGroup joiner)
      | .list items => do
        let links ← ofItems joiner items
        .ok (Expression.fold links joiner)
      | _ => .error (.notList joiner)
  | value => leaf value

/-- The filters of a group's items, each of which has one. -/
def ofItems (joiner : Joiner) : List Json → Except DocumentError (List Expression)
  | [] => .ok []
  | item :: items => do
    match ← ofJson item with
    | none => .error (.emptyGroup joiner)
    | some link =>
      let links ← ofItems joiner items
      .ok (link :: links)

end

/-- The filter of a document's text. -/
def read (text : String) : Except DocumentError (Option Expression) :=
  match Json.read Json.levels text with
  | .ok value => ofJson value
  | .error cause => .error (.text cause)

end Document

end SqlFilter
