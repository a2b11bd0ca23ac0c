import Resemblance.Decimal.Read

/-!
Temperature labels: names such as `temp_0.6` or `temp_1.0_top_k_40_top_p_0.9`, whose segments name
sampling parameters, each followed by its value.
-/

namespace Resemblance

/-- The sampling parameters of a temperature label. -/
structure Temperature where
  temperature : Option Float := none
  topK : Option Nat := none
  topP : Option Float := none

namespace Temperature

def segments : List Char → List (List Char)
  | [] => [[]]
  | c :: rest =>
      match segments rest with
      | [] => []
      | segment :: more => if c = '_' then [] :: segment :: more else (c :: segment) :: more

/-- Takes over the value of one segment, if the segment before it names a parameter. A value that is
no number leaves the parameter unset. -/
def assign (parameters : Temperature) (name value : String) : Temperature :=
  if name == "temp" then { parameters with temperature := Decimal.readFloat? value }
  else if name == "k" then { parameters with topK := Decimal.readNat? iterationBound value }
  else if name == "p" then { parameters with topP := Decimal.readFloat? value }
  else parameters

def assignAll (parameters : Temperature) : List String → Temperature
  | name :: value :: rest => assignAll (parameters.assign name value) (value :: rest)
  | _ => parameters

def ofLabel (label : String) : Temperature :=
  assignAll {} ((segments label.toList).map String.ofList)

end Temperature
end Resemblance
