/-!
YAML values. A scalar is plain, and then may stand for a number or for nothing, or it is a text.
-/

namespace Resemblance

/-- A YAML value. A value that contains itself through an alias is cut off there. -/
inductive Yaml where
  | scalar (plain : Bool) (text : String)
  | sequence (items : List Yaml)
  | mapping (members : List (Yaml × Yaml))
  | cycle

namespace Yaml

def empty : Yaml :=
  .scalar true ""

end Yaml
end Resemblance
