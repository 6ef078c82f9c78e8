import OntologyModules.Json.Number
import OntologyModules.Text.Quoted

/-!
# Problems of a JSON text

A text can be unreadable, because it ends too early or because it is not JSON, and a readable
text can fail to describe a value of the type that is expected. A `Defect` is of the first sort,
a `Mismatch` of the second, and a `Problem` is either.
-/

namespace OntologyModules

/-- Why a text cannot be read. -/
inductive Defect where
  /-- The text ends too early. -/
  | truncated
  /-- Something stands where it may not. -/
  | malformed
deriving DecidableEq, Repr

/-- What stands where something else is expected. -/
inductive Found where
  /-- The null value. -/
  | null
  /-- A truth value. -/
  | boolean (value : Bool)
  /-- A number. -/
  | number (value : Number)
  /-- A text. -/
  | text (value : String)
  /-- An array. -/
  | sequence
  /-- An object. -/
  | mapping
deriving DecidableEq, Repr

namespace Found

/-- The description of what was found. -/
def description : Found → String
  | null => "null"
  | boolean value => "boolean `" ++ toString value ++ "`"
  | number (.integer value) => "integer `" ++ toString value ++ "`"
  | number (.real bits) => "floating point `" ++ Decimal.render bits ++ "`"
  | text value => "string " ++ Text.quote value
  | sequence => "sequence"
  | mapping => "map"

end Found

/-- Why a readable text does not describe a value of the expected type. -/
inductive Mismatch where
  /-- A value of another type was found. -/
  | wrongType (found : Found) (expected : String)
  /-- A number is outside the range of the type. -/
  | outOfRange (value : Number) (expected : String)
  /-- None of the alternatives has the given name. -/
  | unknownVariant (name : String) (known : List String)
  /-- An alternative with a payload was given by its name alone. -/
  | missingPayload
  /-- A field was given twice. -/
  | duplicateField (name : String)
  /-- A field was not given. -/
  | missingField (name : String)
  /-- An array has too few elements. -/
  | tooFewElements
deriving DecidableEq, Repr

namespace Mismatch

/-- A list of names to choose from. -/
def alternatives : List String → String
  | [] => "there are no variants"
  | [only] => "expected `" ++ only ++ "`"
  | [first, second] => "expected `" ++ first ++ "` or `" ++ second ++ "`"
  | names => "expected one of " ++ ", ".intercalate (names.map fun name => "`" ++ name ++ "`")

/-- The mismatch of a name without payload, where only alternatives with a payload exist. -/
def bareName (known : List String) (name : String) : Mismatch :=
  if known.contains name then missingPayload else unknownVariant name known

/-- The message for a mismatch. A missing payload and a short array have none here: what they say
of the expected type is not kept. -/
def message? : Mismatch → Option String
  | wrongType found expected =>
    some ("invalid type: " ++ found.description ++ ", expected " ++ expected)
  | outOfRange value expected =>
    some ("invalid value: " ++ (Found.number value).description ++ ", expected " ++ expected)
  | unknownVariant name known => some ("unknown variant `" ++ name ++ "`, " ++ alternatives known)
  | duplicateField name => some ("duplicate field `" ++ name ++ "`")
  | missingField name => some ("missing field `" ++ name ++ "`")
  | missingPayload | tooFewElements => none

end Mismatch

/-- Why a text gives no value of the expected type. -/
inductive Problem where
  /-- It cannot be read. -/
  | defect (defect : Defect)
  /-- It describes something else. -/
  | mismatch (mismatch : Mismatch)
deriving DecidableEq, Repr

/-- The message for a problem; a text that cannot be read has none. -/
def Problem.message? : Problem → Option String
  | defect _ => none
  | mismatch cause => cause.message?

end OntologyModules
