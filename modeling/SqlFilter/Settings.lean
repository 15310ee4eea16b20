import SqlFilter.Clause.Compile
import SqlFilter.Toml.Reader

/-!
# Settings

The settings are read from TOML: `compiler.max_depth`, how deep expressions may be nested, and
`output.color`, whether output is colored. Both may be missing, and other keys mean nothing. Each of
the two sections may also be an array of its one setting.
-/

namespace SqlFilter

/-- The settings of the program. -/
structure Settings where
  depthLimit : Nat
  color : Bool
deriving DecidableEq, Repr

namespace Settings

/-- The settings where none are given. -/
def standard : Settings := ⟨defaultDepthLimit, true⟩

/-- A limit: an integer that is not negative. -/
def limit? : Toml → Option Nat
  | .integer n => if 0 ≤ n then some n.toNat else none
  | _ => none

/-- A truth value. -/
def switch? : Toml → Option Bool
  | .boolean b => some b
  | _ => none

/-- The one setting of a section, which has a standard value where it is missing. A date is a
section without settings. -/
def setting? {α : Type} (key : String) (read : Toml → Option α) (standard : α) :
    Toml → Option α
  | .table _ entries =>
    match Toml.valueOf? key entries with
    | some value => read value
    | none => some standard
  | .array _ [] => some standard
  | .array _ (value :: _) => read value
  | .datetime => some standard
  | _ => none

/-- The settings that a table gives. -/
def ofToml? : Toml → Option Settings
  | .table _ sections => do
    let depthLimit ← match Toml.valueOf? "compiler" sections with
      | some compiler => setting? "max_depth" limit? standard.depthLimit compiler
      | none => some standard.depthLimit
    let color ← match Toml.valueOf? "output" sections with
      | some output => setting? "color" switch? standard.color output
      | none => some standard.color
    some ⟨depthLimit, color⟩
  | _ => none

/-- The settings that a text gives, if it is TOML and they are of the right kind. -/
def read? (text : String) : Option Settings := do ofToml? (← Toml.read text)

end Settings

end SqlFilter
