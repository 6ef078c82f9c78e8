import OntologyModules.Proofs.Locality.Consistency

/-!
# Expressions of any kind

Class expressions, data ranges, properties and chains of properties have the same four bounds
and the same two answers to what they surely hold of. This module puts them under one type, for
statements about all of them.
-/

namespace OntologyModules

/-- An expression of any kind. -/
inductive Expression where
  /-- A description of a set of individuals. -/
  | ofClass (expression : ClassExpression)
  /-- A description of a set of literal values. -/
  | ofRange (range : DataRange)
  /-- A relation from individuals to individuals or to literal values. -/
  | ofProperty (property : Property)
  /-- The composition of relations between individuals. -/
  | ofChain (chain : List Property)

namespace Expression

/-- The number of members listed by the enumerations of the expression. -/
def memberCount : Expression → Nat
  | ofClass expression => expression.memberCount
  | ofRange range => range.memberCount
  | ofProperty _ | ofChain _ => 0

/-- What is known of the expression. -/
def extent (signature : Signature) : Expression → Extent
  | ofClass expression => expression.extent signature
  | ofRange range => range.extent
  | ofProperty property => property.extent signature
  | ofChain chain => Property.chainExtent signature chain

/-- The bounds of the expression. -/
def bounds (signature : Signature) : Expression → Bounds
  | ofClass expression => expression.bounds signature
  | ofRange range => range.bounds
  | ofProperty property => property.bounds signature
  | ofChain chain => Property.chainBounds signature chain

end Expression

end OntologyModules
