import OntologyModules.Axiom

/-!
# Places for a class

A context is a class expression, or an axiom, in which one class is left open. There is one
constructor for each place where a class expression can stand directly, and contexts nest, so
the open place may lie at any depth. Filling two classes into one context gives two expressions
or axioms that differ in that place only.
-/

namespace OntologyModules

/-- A class expression in which one class is left open. -/
inductive ClassContext where
  /-- The open place itself. -/
  | hole
  /-- Open within the class that is complemented. -/
  | complement (operand : ClassContext)
  /-- Open within one operand of an intersection. -/
  | intersection (before : List ClassExpression) (operand : ClassContext)
      (after : List ClassExpression)
  /-- Open within one operand of a union. -/
  | union (before : List ClassExpression) (operand : ClassContext) (after : List ClassExpression)
  /-- Open within the filler of a restriction. -/
  | object (quantifier : Quantifier) (property : Property) (filler : ClassContext)
deriving Repr

namespace ClassContext

/-- The class expression with a class in the open place. -/
def fill (expression : ClassExpression) : ClassContext → ClassExpression
  | hole => expression
  | complement operand => .complement (operand.fill expression)
  | intersection before operand after =>
    .intersection (before ++ operand.fill expression :: after)
  | union before operand after => .union (before ++ operand.fill expression :: after)
  | object quantifier property filler => .object quantifier property (filler.fill expression)

end ClassContext

/-- An axiom in which one class is left open. -/
inductive AxiomContext where
  /-- Open within the smaller class. -/
  | subClassOfLeft (sub : ClassContext) (super : ClassExpression)
  /-- Open within the larger class. -/
  | subClassOfRight (sub : ClassExpression) (super : ClassContext)
  /-- Open within one of the equivalent classes. -/
  | equivalentClasses (before : List ClassExpression) (operand : ClassContext)
      (after : List ClassExpression)
  /-- Open within one of the disjoint classes. -/
  | disjointClasses (before : List ClassExpression) (operand : ClassContext)
      (after : List ClassExpression)
  /-- Open within one part of a disjoint union. -/
  | disjointUnion (iri : Iri) (before : List ClassExpression) (operand : ClassContext)
      (after : List ClassExpression)
  /-- Open within the domain of an object property. -/
  | objectPropertyDomain (property : Property) (domain : ClassContext)
  /-- Open within the range of an object property. -/
  | objectPropertyRange (property : Property) (range : ClassContext)
  /-- Open within the domain of a data property. -/
  | dataPropertyDomain (property : Property) (domain : ClassContext)
  /-- Open within the class that has a key. -/
  | hasKey (subject : ClassContext) (properties : List Property)
  /-- Open within the class of an individual. -/
  | classAssertion (expression : ClassContext) (individual : Individual)
deriving Repr

namespace AxiomContext

/-- The axiom with a class in the open place. -/
def fill (expression : ClassExpression) : AxiomContext → Axiom
  | subClassOfLeft sub super => .subClassOf (sub.fill expression) super
  | subClassOfRight sub super => .subClassOf sub (super.fill expression)
  | equivalentClasses before operand after =>
    .equivalentClasses (before ++ operand.fill expression :: after)
  | disjointClasses before operand after =>
    .disjointClasses (before ++ operand.fill expression :: after)
  | disjointUnion iri before operand after =>
    .disjointUnion iri (before ++ operand.fill expression :: after)
  | objectPropertyDomain property domain =>
    .objectPropertyDomain property (domain.fill expression)
  | objectPropertyRange property range => .objectPropertyRange property (range.fill expression)
  | dataPropertyDomain property domain => .dataPropertyDomain property (domain.fill expression)
  | hasKey subject properties => .hasKey (subject.fill expression) properties
  | classAssertion subject individual => .classAssertion (subject.fill expression) individual

end AxiomContext

end OntologyModules
