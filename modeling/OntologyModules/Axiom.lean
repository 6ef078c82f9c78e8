import OntologyModules.ClassExpression

/-!
# Axioms

The sentences of an ontology. Declarations only introduce a name; every other axiom restricts
what the names may denote. An axiom is called logical when it is not a declaration. Nothing
ties the axioms about object properties to object properties: any property expression may stand
where one is expected.
-/

namespace OntologyModules

/-- What a single object property may be said to be. -/
inductive Characteristic where
  /-- Nothing is related to two things. -/
  | functional
  /-- No two things are related to the same thing. -/
  | inverseFunctional
  /-- Everything is related to itself. -/
  | reflexive
  /-- Nothing is related to itself. -/
  | irreflexive
  /-- Related things are related the other way round too. -/
  | symmetric
  /-- Related things are never related the other way round. -/
  | asymmetric
  /-- Things related over a third one are related. -/
  | transitive
deriving DecidableEq, Repr

/-- A sentence of an ontology. -/
inductive Axiom where
  /-- A name is introduced. -/
  | declaration (entity : Entity)
  /-- One class lies within another. -/
  | subClassOf (sub super : ClassExpression)
  /-- All operands are the same class. -/
  | equivalentClasses (operands : List ClassExpression)
  /-- No two operands share an individual. -/
  | disjointClasses (operands : List ClassExpression)
  /-- A named class is the union of the operands, no two of which share an individual. -/
  | disjointUnion (iri : Iri) (operands : List ClassExpression)
  /-- One object property implies another. -/
  | subObjectPropertyOf (sub super : Property)
  /-- Following the properties of a chain one after the other implies an object property. -/
  | subPropertyChainOf (chain : List Property) (super : Property)
  /-- All operands are the same object property. -/
  | equivalentObjectProperties (operands : List Property)
  /-- No two operands relate the same individuals. -/
  | disjointObjectProperties (operands : List Property)
  /-- Each object property is the other one read backwards. -/
  | inverseObjectProperties (first second : Property)
  /-- Whatever an object property starts from is in a class. -/
  | objectPropertyDomain (property : Property) (domain : ClassExpression)
  /-- Whatever an object property leads to is in a class. -/
  | objectPropertyRange (property : Property) (range : ClassExpression)
  /-- An object property has a characteristic. -/
  | objectProperty (characteristic : Characteristic) (property : Property)
  /-- One data property implies another. -/
  | subDataPropertyOf (sub super : Property)
  /-- All operands are the same data property. -/
  | equivalentDataProperties (operands : List Property)
  /-- No two operands relate the same individual to the same value. -/
  | disjointDataProperties (operands : List Property)
  /-- Whatever a data property starts from is in a class. -/
  | dataPropertyDomain (property : Property) (domain : ClassExpression)
  /-- Whatever a data property leads to is in a data range. -/
  | dataPropertyRange (property : Property) (range : DataRange)
  /-- A data property relates nothing to two values. -/
  | functionalDataProperty (property : Property)
  /-- A datatype is a data range. -/
  | datatypeDefinition (iri : Iri) (range : DataRange)
  /-- Named individuals of a class that agree on all the properties are the same. -/
  | hasKey (subject : ClassExpression) (properties : List Property)
  /-- All the individuals are the same. -/
  | sameIndividual (individuals : List Individual)
  /-- No two of the individuals are the same. -/
  | differentIndividuals (individuals : List Individual)
  /-- An individual is in a class. -/
  | classAssertion (expression : ClassExpression) (individual : Individual)
  /-- An object property relates two individuals. -/
  | objectPropertyAssertion (property : Property) (source target : Individual)
  /-- An object property does not relate two individuals. -/
  | negativeObjectPropertyAssertion (property : Property) (source target : Individual)
  /-- A data property relates an individual to a value. -/
  | dataPropertyAssertion (property : Property) (source : Individual) (value : Literal)
  /-- A data property does not relate an individual to a value. -/
  | negativeDataPropertyAssertion (property : Property) (source : Individual) (value : Literal)
deriving DecidableEq, Repr

namespace Axiom

/-- Whether the axiom restricts what names denote, as all but declarations do. -/
def isLogical : Axiom → Bool
  | declaration _ => false
  | _ => true

end Axiom

end OntologyModules
