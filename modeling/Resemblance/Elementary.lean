/-!
The functions of the mathematical library that scores are computed with. How they round is the
library's affair, so that laws of scores are stated for every library that has the laws they rest
on.
-/

namespace Resemblance

structure Elementary where
  exp : Float → Float
  log : Float → Float

def Elementary.platform : Elementary :=
  ⟨Float.exp, Float.log⟩

end Resemblance
