import OntologyModules.Json.Token

/-!
# Reading a JSON text

The tokens of a text are put together from left to right. What has been read of the containers
around the current place is kept on a stack, innermost first; where a token does not fit, the
value there is marked and all containers around it are cut, and the same happens where the
tokens end too early.
-/

namespace OntologyModules

/-- What a text holds: a value, and perhaps something after it that should not be there. -/
structure Document where
  /-- The value. -/
  value : Json
  /-- Whether anything but blanks follows the value. -/
  trailing : Bool

namespace Document

/-- A container that awaits a value, with what came before in reverse. -/
inductive Frame where
  /-- The next item of an array. -/
  | item (before : List Json)
  /-- The member of an object with the given name. -/
  | member (before : List (Key × Json)) (key : Key)

/-- Where in a text the next token stands. -/
inductive Place where
  /-- Where a value has to stand. -/
  | value
  /-- Behind the opening bracket of an array. -/
  | firstItem
  /-- Behind an item of an array. -/
  | afterItem (items : List Json)
  /-- Behind the opening bracket of an object. -/
  | firstName
  /-- Behind the comma of an object. -/
  | nextName (before : List (Key × Json))
  /-- Behind the name of a member. -/
  | afterName (before : List (Key × Json)) (key : Key)
  /-- Behind a member of an object. -/
  | afterMember (members : List (Key × Json))

/-- What becomes of a token. -/
inductive Outcome where
  /-- Reading goes on. -/
  | proceed (place : Place) (stack : List Frame)
  /-- The outermost value is complete. -/
  | complete (value : Json)
  /-- Reading stops, with all containers cut. -/
  | abandon (value : Json)

/-- Cuts all containers around a value in which reading stopped. -/
def cutAround (value : Json) : List Frame → Json
  | [] => value
  | .item before :: stack =>
    cutAround (.array (value :: before).reverse (.cut .truncated)) stack
  | .member before key :: stack =>
    cutAround (.object ((key, value) :: before).reverse (.cut .truncated)) stack

/-- Puts a value that was read into the container that awaits it. -/
def supply (value : Json) : List Frame → Outcome
  | [] => .complete value
  | .item before :: stack => .proceed (.afterItem (value :: before)) stack
  | .member before key :: stack => .proceed (.afterMember ((key, value) :: before)) stack

/-- Reads a token where a value has to stand. -/
def atValue (stack : List Frame) : Token → Outcome
  | .null => supply .null stack
  | .bool value => supply (.bool value) stack
  | .number value => supply (.number value) stack
  | .string text => supply (.string text) stack
  | .broken opening read passed => supply (.broken opening read passed) stack
  | .openArray => .proceed .firstItem stack
  | .openObject => .proceed .firstName stack
  | .closeArray | .closeObject | .comma | .colon => .abandon (cutAround .misplaced stack)

/-- Reads a token where the name of a member has to stand. -/
def atName (before : List (Key × Json)) (stack : List Frame) : Token → Outcome
  | .string text => .proceed (.afterName before (.name text)) stack
  | .broken .text read passed => .proceed (.afterName before (.broken read passed)) stack
  | _ => .abandon (cutAround .misplaced
    (.member before (.broken .malformed (some .malformed)) :: stack))

/-- Reads a token at a place. -/
def step (place : Place) (stack : List Frame) (token : Token) : Outcome :=
  match place, token with
  | .value, token => atValue stack token
  | .firstItem, .closeArray => supply (.array [] .closed) stack
  | .firstItem, token => atValue (.item [] :: stack) token
  | .afterItem items, .comma => .proceed .value (.item items :: stack)
  | .afterItem items, .closeArray => supply (.array items.reverse .closed) stack
  | .afterItem items, _ => .abandon (cutAround (.array items.reverse (.cut .malformed)) stack)
  | .firstName, .closeObject => supply (.object [] .closed) stack
  | .firstName, token => atName [] stack token
  | .nextName before, token => atName before stack token
  | .afterName before key, .colon => .proceed .value (.member before key :: stack)
  | .afterName before key, _ => .abandon (cutAround .misplaced (.member before key :: stack))
  | .afterMember members, .comma => .proceed (.nextName members) stack
  | .afterMember members, .closeObject => supply (.object members.reverse .closed) stack
  | .afterMember members, _ =>
    .abandon (cutAround (.object members.reverse (.cut .malformed)) stack)

/-- The value of a text that ends at a place. -/
def atEnd (place : Place) (stack : List Frame) : Json :=
  match place with
  | .value => cutAround .absent stack
  | .firstItem => cutAround (.array [] (.cut .truncated)) stack
  | .afterItem items => cutAround (.array items.reverse (.cut .truncated)) stack
  | .firstName => cutAround .absent (.member [] absentName :: stack)
  | .nextName before => cutAround .absent (.member before absentName :: stack)
  | .afterName before key => cutAround .absent (.member before key :: stack)
  | .afterMember members => cutAround (.object members.reverse (.cut .truncated)) stack
where
  /-- The place where a name is expected and the text ends. -/
  absentName : Key := .broken .truncated (some .truncated)

/-- Reads tokens from a place on. -/
def read (place : Place) (stack : List Frame) : List Token → Document
  | [] => ⟨atEnd place stack, false⟩
  | token :: rest =>
    match step place stack token with
    | .proceed place stack => read place stack rest
    | .complete value => ⟨value, !rest.isEmpty⟩
    | .abandon value => ⟨value, false⟩

/-- How deep containers may be nested in a text. -/
def depthLimit : Nat := 127

/-- What a text holds, however deep it is nested. -/
def ofUnlimitedText (text : String) : Document := read .value [] (Token.ofChars text.toList)

/-- What a text holds, with containers that are nested too deep left unread. -/
def ofText (text : String) : Document :=
  let document := ofUnlimitedText text
  { document with value := document.value.bury depthLimit }

/-- Decodes the value of a text; nothing may follow it. -/
def decode {α : Type} (decodeValue : Json → Except Problem α) (document : Document) :
    Except Problem α := do
  let value ← decodeValue document.value
  if document.trailing then .error (.defect .malformed) else .ok value

end Document

end OntologyModules
