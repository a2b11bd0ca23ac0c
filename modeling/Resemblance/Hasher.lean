/-!
Digests of kinds and of subtrees. They are only compared with each other: subtrees count as the same
when their digests are.
-/

namespace Resemblance

/-- How digests are made: of a kind, and of a node from its kind, its text and the digests of its
subtrees. Digests can be put in order by `le`, so that the order of siblings does not count. -/
structure Hasher (H : Type) where
  ofKind : String → H
  ofNode : String → Option String → List H → H
  le : H → H → Bool

def Hasher.combine {H : Type} (hasher : Hasher H) (kind : String) (text : Option String)
    (below : List H) : H :=
  hasher.ofNode kind text (below.mergeSort hasher.le)

end Resemblance
