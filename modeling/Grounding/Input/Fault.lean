/-!
# Refused input

Structured input is checked field by field.  A fault says where the offending value stands and what
is wrong with it; the wording and the code of each defect are fixed here and nowhere else.
-/

namespace Grounding.Input

/-- One step from a value to a part of it. -/
inductive Step where
  | field (name : String)
  | item (index : Nat)
deriving DecidableEq

inductive Defect where
  | notInteger
  | unreadableInteger
  | fractionalInteger
  | oversizedInteger
  | notFinite
  | notNumber
  | unreadableNumber
  | notFlag
  | unreadableFlag
  | notText
  | notUnicode
  | below (bound : Nat)
  | above (bound : Nat)
  | notRecord (record : String)
  | missing
  | notList
  | notObject
  | notFields
  | malformedBody
deriving DecidableEq

def Defect.code : Defect → String
  | .notInteger => "int_type"
  | .unreadableInteger => "int_parsing"
  | .fractionalInteger => "int_from_float"
  | .oversizedInteger => "int_parsing_size"
  | .notFinite => "finite_number"
  | .notNumber => "float_type"
  | .unreadableNumber => "float_parsing"
  | .notFlag => "bool_type"
  | .unreadableFlag => "bool_parsing"
  | .notText => "string_type"
  | .notUnicode => "string_unicode"
  | .below _ => "greater_than_equal"
  | .above _ => "less_than_equal"
  | .notRecord _ => "model_type"
  | .missing => "missing"
  | .notList => "list_type"
  | .notObject => "dict_type"
  | .notFields => "model_attributes_type"
  | .malformedBody => "json_invalid"

def Defect.message : Defect → String
  | .notInteger => "Input should be a valid integer"
  | .unreadableInteger => "Input should be a valid integer, unable to parse string as an integer"
  | .fractionalInteger => "Input should be a valid integer, got a number with a fractional part"
  | .oversizedInteger => "Unable to parse input string as an integer, exceeded maximum size"
  | .notFinite => "Input should be a finite number"
  | .notNumber => "Input should be a valid number"
  | .unreadableNumber => "Input should be a valid number, unable to parse string as a number"
  | .notFlag => "Input should be a valid boolean"
  | .unreadableFlag => "Input should be a valid boolean, unable to interpret input"
  | .notText => "Input should be a valid string"
  | .notUnicode =>
    "Input should be a valid string, unable to parse raw data as a unicode string"
  | .below bound => "Input should be greater than or equal to " ++ toString bound
  | .above bound => "Input should be less than or equal to " ++ toString bound
  | .notRecord record => "Input should be a valid dictionary or instance of " ++ record
  | .missing => "Field required"
  | .notList => "Input should be a valid list"
  | .notObject => "Input should be a valid dictionary"
  | .notFields => "Input should be a valid dictionary or object to extract fields from"
  | .malformedBody => "JSON decode error"

structure Fault where
  path : List Step
  defect : Defect
deriving DecidableEq

def Fault.under (step : Step) (f : Fault) : Fault := ⟨step :: f.path, f.defect⟩

def faultsOf {α : Type} : Except Fault α → List Fault
  | .ok _ => []
  | .error fault => [fault]

end Grounding.Input
