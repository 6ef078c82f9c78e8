import OntologyModules.Text.Visible

/-!
# Text between quotes

A text is shown between double quotes. The quote and the backslash get a backslash in front, line
feed, carriage return, tab and the null character have a letter or digit of their own, every other
character that cannot be seen is written by its code point, and all else stands for itself.
-/

namespace OntologyModules.Text

/-- The hexadecimal digits of a code point. -/
def hexadecimal (char : Char) : String := String.ofList (Nat.toDigits 16 char.toNat)

/-- A character between quotes. -/
def quoteChar : Char → String
  | '"' => "\\\""
  | '\\' => "\\\\"
  | '\n' => "\\n"
  | '\r' => "\\r"
  | '\t' => "\\t"
  | '\x00' => "\\0"
  | char =>
    if visible char then char.toString else "\\u\x7b" ++ hexadecimal char ++ "\x7d"

/-- A text between quotes. -/
def quote (text : String) : String :=
  "\"" ++ String.join (text.toList.map quoteChar) ++ "\""

end OntologyModules.Text
