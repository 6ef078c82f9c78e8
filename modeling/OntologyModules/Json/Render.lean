import OntologyModules.Json

/-!
# Printing JSON trees

The text of a tree, without blanks. Characters that may not stand in a quoted text are escaped.
A place where reading stopped has no text of its own and is printed as the null value.
-/

namespace OntologyModules.Json

/-- Four hexadecimal digits. -/
def fourDigits (value : Nat) : String :=
  let digits := Nat.toDigits 16 value
  String.ofList (List.replicate (4 - digits.length) '0' ++ digits)

/-- A character of a quoted text. -/
def renderChar : Char → String
  | '"' => "\\\""
  | '\\' => "\\\\"
  | '\n' => "\\n"
  | '\r' => "\\r"
  | '\t' => "\\t"
  | char => if char < ' ' then "\\u" ++ fourDigits char.toNat else char.toString

/-- A quoted text. -/
def renderText (text : String) : String :=
  "\"" ++ String.join (text.toList.map renderChar) ++ "\""

/-- The text of the name of a member. -/
def renderKey : Key → String
  | .name text => renderText text
  | .broken .. => renderText ""

mutual

/-- The text of a tree. -/
def render : Json → String
  | null | buried .. | broken .. => "null"
  | bool value => toString value
  | number value => value.render
  | string text => renderText text
  | array items _ => "[" ++ ",".intercalate (renderItems items) ++ "]"
  | object members _ => "\x7b" ++ ",".intercalate (renderMembers members) ++ "\x7d"

/-- The texts of items. -/
def renderItems : List Json → List String
  | [] => []
  | first :: rest => render first :: renderItems rest

/-- The texts of members. -/
def renderMembers : List (Key × Json) → List String
  | [] => []
  | (key, value) :: rest => (renderKey key ++ ":" ++ render value) :: renderMembers rest

end

end OntologyModules.Json
