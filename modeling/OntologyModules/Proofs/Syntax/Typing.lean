import OntologyModules.Axiom

/-!
# Sorts of property expressions

Nothing keeps a data property from standing where an object property is expected. An expression
or axiom is well typed when object property expressions stand in object positions and plain
data properties in data positions; a data property has no inverse, and a key may name either
sort. Well-typedness is decided by recursion over the text.
-/

namespace OntologyModules

namespace Property

/-- Whether the expression is an object property under any number of inverses. -/
def isObject : Property → Bool
  | object _ => true
  | data _ => false
  | inverse property => property.isObject

/-- Whether the expression is a plain data property. -/
def isData : Property → Bool
  | data _ => true
  | object _ | inverse _ => false

end Property

namespace ClassExpression

mutual

/-- Whether every property stands where its sort is expected. -/
def isWellTyped : ClassExpression → Bool
  | named _ | thing | nothing | oneOf _ => true
  | complement operand => isWellTyped operand
  | intersection operands => allWellTyped operands
  | union operands => allWellTyped operands
  | object _ property filler => property.isObject && isWellTyped filler
  | objectCount _ property | hasValue property _ | hasSelf property => property.isObject
  | data _ property _ | dataCount _ property | dataHasValue property _ => property.isData

/-- Whether every listed class expression is well typed. -/
def allWellTyped : List ClassExpression → Bool
  | [] => true
  | first :: rest => isWellTyped first && allWellTyped rest

end

/-- A list is well typed when its members are. -/
theorem allWellTyped_iff {classes : List ClassExpression} :
    allWellTyped classes = true ↔ ∀ expression ∈ classes, expression.isWellTyped = true := by
  induction classes with
  | nil => simp [allWellTyped]
  | cons first rest ih => simp [allWellTyped, ih]

end ClassExpression

namespace Axiom

/-- Whether every property stands where its sort is expected. -/
def isWellTyped : Axiom → Bool
  | declaration _ | datatypeDefinition _ _ | sameIndividual _ | differentIndividuals _ => true
  | subClassOf sub super => sub.isWellTyped && super.isWellTyped
  | equivalentClasses operands | disjointClasses operands | disjointUnion _ operands =>
    ClassExpression.allWellTyped operands
  | subObjectPropertyOf first second | inverseObjectProperties first second =>
    first.isObject && second.isObject
  | subPropertyChainOf chain super => chain.all (·.isObject) && super.isObject
  | equivalentObjectProperties operands | disjointObjectProperties operands =>
    operands.all (·.isObject)
  | objectPropertyDomain property expression | objectPropertyRange property expression =>
    property.isObject && expression.isWellTyped
  | objectProperty _ property | objectPropertyAssertion property _ _
  | negativeObjectPropertyAssertion property _ _ => property.isObject
  | subDataPropertyOf first second => first.isData && second.isData
  | equivalentDataProperties operands | disjointDataProperties operands =>
    operands.all (·.isData)
  | dataPropertyDomain property expression => property.isData && expression.isWellTyped
  | dataPropertyRange property _ | functionalDataProperty property
  | dataPropertyAssertion property _ _ | negativeDataPropertyAssertion property _ _ =>
    property.isData
  | hasKey subject properties =>
    subject.isWellTyped && properties.all fun property => property.isObject || property.isData
  | classAssertion expression _ => expression.isWellTyped

end Axiom

end OntologyModules
