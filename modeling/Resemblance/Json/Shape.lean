import Resemblance.Json

/-!
Reading structures from JSON: an object with named members in any order, or an array of the values
in their fixed order. Unknown members are skipped, and no known member may occur twice.
-/

namespace Resemblance.Json

/-- A member of a structure: the names it goes by, and whether it may be left out at the end of an
array. -/
structure Slot where
  names : List String
  defaulted : Bool := false

def Slot.named (name : String) : Slot :=
  { names := [name] }

def valuesNamed (names : List String) (members : List (Option String × Json)) : List Json :=
  (members.filter fun member => member.1.any names.contains).map Prod.snd

/-- The value of one slot in an object, if it occurs at most once. -/
def slotValue (members : List (Option String × Json)) (slot : Slot) : Option (Option Json) :=
  match valuesNamed slot.names members with
  | [] => some none
  | [value] => some (some value)
  | _ => none

/-- The values of an array in the order of the slots; the slots left over must be defaulted. -/
def spread : List Slot → List Json → Option (List (Option Json))
  | [], [] => some []
  | [], _ :: _ => none
  | _ :: slots, value :: values => (spread slots values).map (some value :: ·)
  | slot :: slots, [] => if slot.defaulted then (spread slots []).map (none :: ·) else none

def slots? (slots : List Slot) : Json → Option (List (Option Json))
  | .array values => spread slots values
  | .object members =>
      if members.all fun member => member.1.isSome then slots.mapM (slotValue members) else none
  | _ => none

def required {α : Type} (read : Json → Option α) (value : Option Json) : Option α :=
  value.bind read

def optional {α : Type} (read : Json → Option α) : Option Json → Option (Option α)
  | none => some none
  | some value => toOption? read value

end Resemblance.Json
