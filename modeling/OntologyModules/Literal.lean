import OntologyModules.Vocabulary

/-!
# Literals, individuals and facets

The constants that axioms mention. A literal keeps its text, its datatype and its language tag
apart; an absent tag differs from an empty one.
-/

namespace OntologyModules

/-- An individual is mentioned by its IRI. -/
abbrev Individual := Iri

/-- A constant of some datatype. -/
structure Literal where
  /-- The text of the constant. -/
  value : String
  /-- The datatype the text is read in. -/
  datatype : Iri
  /-- The language tag, if the constant has one. -/
  language : Option String
deriving DecidableEq, Repr

namespace Literal

/-- The constant with the given text in the given datatype, without a language tag. -/
def typed (value : String) (datatype : Iri) : Literal := ⟨value, datatype, none⟩

/-- The character string with the given text. -/
def ofString (value : String) : Literal := typed value Vocabulary.string

end Literal

/-- One condition on the values of a restricted datatype. -/
structure Facet where
  /-- Which condition it is. -/
  facet : Iri
  /-- The constant that the condition compares with. -/
  value : Literal
deriving DecidableEq, Repr

end OntologyModules
