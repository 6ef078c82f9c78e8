import OntologyModules.Extraction
import OntologyModules.Json.Decode

/-!
# The written form of conventions and kinds of modules

A flavour and a kind of module are written as their words. A convention is a record of two
flavours, each of which is the default flavour if it is not given. A stored convention is a text
of this form, and reading one fails if there is no text, if its bytes are not the encoding of a
text, or if the text is not of this form.
-/

namespace OntologyModules

namespace Flavour

/-- The word for a flavour. -/
def name : Flavour → String
  | bottom => "bottom"
  | top => "top"

/-- The flavours by their words. -/
def alternatives : List (String × Flavour) := [bottom, top].map fun flavour => (flavour.name, flavour)

/-- Writes a flavour. -/
def encode (flavour : Flavour) : Json := .string flavour.name

/-- Reads a flavour. -/
def decode : Json → Except Problem Flavour := Json.asName alternatives

end Flavour

namespace ModuleKind

/-- The word for a kind of module. -/
def name : ModuleKind → String
  | bottom => "bottom"
  | top => "top"
  | star => "star"

/-- The kinds of modules by their words. -/
def alternatives : List (String × ModuleKind) :=
  [bottom, top, star].map fun kind => (kind.name, kind)

/-- Writes a kind of module. -/
def encode (kind : ModuleKind) : Json := .string kind.name

/-- Reads a kind of module. -/
def decode : Json → Except Problem ModuleKind := Json.asName alternatives

end ModuleKind

namespace Convention

/-- Writes a convention, both flavours always. -/
def encode (convention : Convention) : Json :=
  .record [("classes", convention.classes.encode), ("properties", convention.properties.encode)]

/-- Reads a convention. -/
def decode (json : Json) : Except Problem Convention := do
  let (classes, properties) ← json.asRecord₂ "struct LocalityConfig"
    (.withDefault "classes" Flavour.decode default)
    (.withDefault "properties" Flavour.decode default)
  return ⟨classes, properties⟩

/-- Why a stored convention cannot be loaded. -/
inductive LoadError where
  /-- Nothing is stored. -/
  | notFound
  /-- What is stored is not the encoding of a text. -/
  | notText
  /-- The text is no convention. -/
  | invalid (problem : Problem)
deriving DecidableEq, Repr

namespace LoadError

/-- The message for a convention that cannot be loaded, with that of the problem if it has one. -/
def message : LoadError → String
  | notFound => "I/O error: No such file or directory (os error 2)"
  | notText => "I/O error: stream did not contain valid UTF-8"
  | invalid problem =>
    match problem.message? with
    | some cause => "Invalid locality configuration: " ++ cause
    | none => "Invalid locality configuration"

end LoadError

/-- The convention that a text describes. -/
def ofText (text : String) : Except LoadError Convention :=
  match (Document.ofText text).decode decode with
  | .ok convention => .ok convention
  | .error problem => .error (.invalid problem)

/-- The convention that is stored, if anything is. -/
def load : Option ByteArray → Except LoadError Convention
  | none => .error .notFound
  | some bytes =>
    match String.fromUTF8? bytes with
    | none => .error .notText
    | some text => ofText text

end Convention

end OntologyModules
