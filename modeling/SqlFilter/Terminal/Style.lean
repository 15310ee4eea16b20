/-!
# Styles of terminal text

Colors and weights are switched on by an escape sequence in front of a text and off by another one
behind it. A text that switches styles off itself would end its own style early, so the style is
switched on again wherever that happens.
-/

namespace SqlFilter

namespace Terminal

/-- The styles of the program's output. -/
inductive Style where
  | cyan
  | white
  | yellow
  | dimmed
  | boldCyan
  | boldGreen
  | boldRed
deriving DecidableEq, Repr

/-- The code of a style. -/
def Style.code : Style → String
  | .cyan => "36"
  | .white => "37"
  | .yellow => "33"
  | .dimmed => "2"
  | .boldCyan => "1;36"
  | .boldGreen => "1;32"
  | .boldRed => "1;31"

/-- The sequence that switches a style on. -/
def Style.start (s : Style) : String := "\x1b[" ++ s.code ++ "m"

/-- The sequence that switches every style off. -/
def reset : String := "\x1b[0m"

/-- A text in a style, on a terminal that shows styles or on one that does not. -/
def paint (colored : Bool) (style : Style) (text : String) : String :=
  if colored then style.start ++ text.replace reset (reset ++ style.start) ++ reset else text

/-- Whether the environment forces or forbids colors: `force` is set and is not `0`. Output is
taken not to be a terminal, so there are no colors unless they are forced. -/
def forced (force : Option String) : Bool :=
  match force with
  | some value => value ≠ "0"
  | none => false

end Terminal

end SqlFilter
