import SqlxDryRun.Text.Search

/-!
# Coloured text

A style is switched on by an escape sequence in front of a text and off by the reset sequence behind
it. A reset inside the text would end the style too early, so the style is switched on again behind
every such reset.
-/

namespace SqlxDryRun.Text.Ansi

/-- The colours of the foreground, each with its code. -/
inductive Colour where
  | red
  | green
  | yellow
  | cyan
  | brightBlue
deriving DecidableEq, Repr, Inhabited

namespace Colour

/-- The code of a colour. -/
def code : Colour → String
  | red => "31"
  | green => "32"
  | yellow => "33"
  | cyan => "36"
  | brightBlue => "94"

end Colour

/-- A way to show a text: in bold or not, and in a colour or in that of the surroundings. -/
structure Style where
  bold : Bool
  colour : Option Colour
deriving DecidableEq, Repr, Inhabited

namespace Style

/-- The style of a colour. -/
def plain (c : Colour) : Style := ⟨false, some c⟩

/-- The style of a colour in bold. -/
def strong (c : Colour) : Style := ⟨true, some c⟩

/-- The sequence that switches a style on. -/
def start (s : Style) : String :=
  let codes := (if s.bold then ["1"] else []) ++ (s.colour.map Colour.code).toList
  "\x1b[" ++ String.intercalate ";" codes ++ "m"

end Style

/-- The sequence that switches every style off. -/
def reset : String := "\x1b[0m"

/-- The text with an insertion behind every occurrence of a mark; `skip` characters at its head
belong to an occurrence that has been seen. -/
def insertBehind (mark insertion : List Char) : (skip : Nat) → List Char → List Char
  | _, [] => []
  | skip + 1, c :: rest =>
    c :: ((if skip == 0 then insertion else []) ++ insertBehind mark insertion skip rest)
  | 0, c :: rest =>
    if (afterPrefix? mark (c :: rest)).isSome then
      c :: ((if mark.length == 1 then insertion else []) ++
        insertBehind mark insertion (mark.length - 1) rest)
    else c :: insertBehind mark insertion 0 rest

/-- The text in a style. -/
def paint (s : Style) (text : String) : String :=
  s.start ++ String.ofList (insertBehind reset.toList s.start.toList 0 text.toList) ++ reset

/-- The text in a style if colours are on. -/
def paintIf (on : Bool) (s : Style) (text : String) : String :=
  if on then paint s text else text

end SqlxDryRun.Text.Ansi
