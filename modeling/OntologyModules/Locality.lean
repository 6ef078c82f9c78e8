import OntologyModules.Axiom
import OntologyModules.Locality.Equivalence

/-!
# Locality

An axiom is local for a signature when it holds in every interpretation that reads the names
outside the signature as its convention says. `Axiom.isLocal` decides a sufficient condition
from the extents of the axiom's parts alone: each rule asks for extents that make the axiom
hold, and an axiom about individuals or datatypes themselves is never local.
-/

namespace OntologyModules

namespace Extent

/-- Whether the operands are all the same: all empty or all universal, or fewer than two. -/
def areEquivalent : List Extent → Bool
  | [] | [_] => true
  | first :: rest =>
    if first.empty then rest.all (·.empty) else first.full && rest.all (·.full)

/-- Whether no two operands overlap: at most one of them may hold of something. -/
def areDisjoint (operands : List Extent) : Bool :=
  (operands.filter (!·.empty)).length ≤ 1

/-- Whether one operand is universal and all others are empty. -/
def onePartIsFull : List Extent → Bool
  | [] => false
  | first :: rest =>
    if first.empty then onePartIsFull rest else first.full && rest.all (·.empty)

/-- Whether the whole is the union of parts that do not overlap. -/
def isDisjointUnion (whole : Extent) (parts : List Extent) : Bool :=
  if whole.empty then parts.all (·.empty) else whole.full && onePartIsFull parts

/-- Whether a property of the given extent has a characteristic. -/
def has (property : Extent) : Characteristic → Bool
  | .transitive | .symmetric => property.empty || property.full
  | .reflexive => property.full
  | .irreflexive | .asymmetric | .functional | .inverseFunctional => property.empty

end Extent

namespace Axiom

/-- Whether the axiom is local for the signature. -/
def isLocal (signature : Signature) : Axiom → Bool
  | declaration _ => true
  | subClassOf sub super => (sub.extent signature).empty || (super.extent signature).full
  | equivalentClasses operands => Extent.areEquivalent (operands.map (·.extent signature))
  | disjointClasses operands => Extent.areDisjoint (operands.map (·.extent signature))
  | disjointUnion iri operands =>
    (ClassExpression.extent signature (.named iri)).isDisjointUnion
      (operands.map (·.extent signature))
  | subObjectPropertyOf sub super | subDataPropertyOf sub super =>
    (super.extent signature).full || (sub.extent signature).empty
  | subPropertyChainOf chain super =>
    (super.extent signature).full || (Property.chainExtent signature chain).empty
  | equivalentObjectProperties operands | equivalentDataProperties operands =>
    Extent.areEquivalent (operands.map (·.extent signature))
  | disjointObjectProperties operands | disjointDataProperties operands =>
    Extent.areDisjoint (operands.map (·.extent signature))
  | inverseObjectProperties first second =>
    (first.extent signature).empty && (second.extent signature).empty ||
      (first.extent signature).full && (second.extent signature).full
  | objectPropertyDomain property expression | objectPropertyRange property expression
  | dataPropertyDomain property expression =>
    (expression.extent signature).full || (property.extent signature).empty
  | dataPropertyRange property range => range.extent.full || (property.extent signature).empty
  | objectProperty characteristic property => (property.extent signature).has characteristic
  | functionalDataProperty property => (property.extent signature).empty
  | classAssertion expression _ => (expression.extent signature).full
  | objectPropertyAssertion property _ _ | dataPropertyAssertion property _ _ =>
    (property.extent signature).full
  | negativeObjectPropertyAssertion property _ _ | negativeDataPropertyAssertion property _ _ =>
    (property.extent signature).empty
  | datatypeDefinition _ _ | hasKey _ _ | sameIndividual _ | differentIndividuals _ => false

end Axiom

end OntologyModules
