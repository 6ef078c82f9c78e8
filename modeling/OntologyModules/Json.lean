import OntologyModules.Json.Problem

/-!
# JSON trees

Every text has a tree, also one that cannot be read to its end: the place where reading stopped
is marked in the tree with what is wrong there, and the containers around it are cut. A decoder
that visits the tree in text order therefore meets the first problem of the text first, be it a
defect of the text or a mismatch with the expected type.

A value that is passed over without being decoded is checked less strictly than one that is
decoded, and what is wrong with a value may depend on what is expected there. The marks record
what is needed to tell: a defect for reading, and one for passing over, if passing over fails.
-/

namespace OntologyModules

/-- What a value that cannot be read begins like. -/
inductive Opening where
  /-- With a quotation mark, or it does not begin at all. -/
  | text
  /-- With the first letter of the word for the null value. -/
  | nullWord
  /-- With anything else. -/
  | other
deriving DecidableEq, Repr

/-- How a container ends. -/
inductive Stop where
  /-- With its bracket. -/
  | closed
  /-- With a defect where a comma or the bracket is expected. -/
  | cut (defect : Defect)
deriving DecidableEq, Repr

/-- The name of a member of an object. -/
inductive Key where
  /-- A name. -/
  | name (text : String)
  /-- Something that is no name: reading it gives a defect, and passing over it may give one. -/
  | broken (read : Defect) (passed : Option Defect)
deriving DecidableEq, Repr

/-- A JSON text, as far as it can be read. -/
inductive Json where
  /-- The null value. -/
  | null
  /-- A truth value. -/
  | bool (value : Bool)
  /-- A number. -/
  | number (value : Number)
  /-- A text. -/
  | string (text : String)
  /-- A list of values. -/
  | array (items : List Json) (stop : Stop)
  /-- A list of named values. -/
  | object (members : List (Key × Json)) (stop : Stop)
  /-- A container that is nested too deep to be read, which passing over it does not mind. -/
  | buried (isArray : Bool) (passed : Option Defect)
  /-- A value that cannot be read. -/
  | broken (opening : Opening) (read : Defect) (passed : Option Defect)
deriving Repr

namespace Json

/-- The place where a value is expected and the text ends. -/
def absent : Json := broken .text .truncated (some .truncated)

/-- The place where something stands that is no value. -/
def misplaced : Json := broken .text .malformed (some .malformed)

namespace Stop

/-- The defect of the end of a container. -/
def defect? : Stop → Option Defect
  | .closed => none
  | .cut defect => some defect

end Stop

/-- The defect of a key that is passed over. -/
def passedKey : Key → Option Defect
  | .name _ => none
  | .broken _ passed => passed

mutual

/-- The first defect in a value that is passed over. -/
def passed : Json → Option Defect
  | null | bool _ | number _ | string _ => none
  | array items stop => passedItems items <|> Stop.defect? stop
  | object members stop => passedMembers members <|> Stop.defect? stop
  | buried _ defect => defect
  | broken _ _ defect => defect

/-- The first defect in items that are passed over. -/
def passedItems : List Json → Option Defect
  | [] => none
  | first :: rest => passed first <|> passedItems rest

/-- The first defect in members that are passed over. -/
def passedMembers : List (Key × Json) → Option Defect
  | [] => none
  | (key, value) :: rest => passedKey key <|> passed value <|> passedMembers rest

end

mutual

/-- The tree in which containers that are nested deeper than the limit are not read. -/
def bury (limit : Nat) : Json → Json
  | array items stop =>
    match limit with
    | 0 => buried true (passed (array items stop))
    | limit + 1 => array (buryItems limit items) stop
  | object members stop =>
    match limit with
    | 0 => buried false (passed (object members stop))
    | limit + 1 => object (buryMembers limit members) stop
  | null => null
  | bool value => bool value
  | number value => number value
  | string text => string text
  | buried isArray defect => buried isArray defect
  | broken opening read defect => broken opening read defect

/-- The items in which containers that are nested deeper than the limit are not read. -/
def buryItems (limit : Nat) : List Json → List Json
  | [] => []
  | first :: rest => bury limit first :: buryItems limit rest

/-- The members in which containers that are nested deeper than the limit are not read. -/
def buryMembers (limit : Nat) : List (Key × Json) → List (Key × Json)
  | [] => []
  | (key, value) :: rest => (key, bury limit value) :: buryMembers limit rest

end

/-- An array with all of its items. -/
def list (items : List Json) : Json := array items .closed

/-- An object with named members. -/
def record (members : List (String × Json)) : Json :=
  object (members.map fun (name, value) => (.name name, value)) .closed

/-- An alternative with a payload. -/
def tagged (name : String) (payload : Json) : Json := object [(.name name, payload)] .closed

/-- A count. -/
def ofWord (word : UInt32) : Json := number (.integer word.toNat)

/-- A value that may be absent. -/
def ofOption {α : Type} (encode : α → Json) : Option α → Json
  | none => null
  | some value => encode value

end Json

end OntologyModules
