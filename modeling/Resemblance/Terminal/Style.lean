/-!
Styled text for terminals: the codes that switch a style on and off around a text.
-/

namespace Resemblance.Terminal

inductive Style where
  | bold
  | dimmed
  | red
  | green
  | yellow
  | cyan
  | brightGreen
  | brightBlue
  deriving DecidableEq, Repr

def Style.on : Style → Nat
  | bold => 1
  | dimmed => 2
  | red => 31
  | green => 32
  | yellow => 33
  | cyan => 36
  | brightGreen => 92
  | brightBlue => 94

def Style.off : Style → Nat
  | bold => 0
  | dimmed => 0
  | _ => 39

def code (n : Nat) : String :=
  s!"\x1b[{n}m"

def paint (style : Style) (text : String) : String :=
  code style.on ++ text ++ code style.off

def heading (style : Style) (text : String) : String :=
  paint .bold (paint style text)

end Resemblance.Terminal
