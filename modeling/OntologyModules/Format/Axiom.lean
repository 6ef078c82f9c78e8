import OntologyModules.Axiom
import OntologyModules.Format.Entity
import OntologyModules.Format.Expression

/-!
# The written form of axioms

An axiom is an alternative named for its sort. The payload of a sort with one part is that part;
of a sort with several parts it is an array of them.
-/

namespace OntologyModules

open Json (PayloadForm tagged asText asPair asTriple)

namespace Characteristic

/-- The sort of the axiom that says that an object property has the characteristic. -/
def sort : Characteristic → String
  | functional => "FunctionalObjectProperty"
  | inverseFunctional => "InverseFunctionalObjectProperty"
  | reflexive => "ReflexiveObjectProperty"
  | irreflexive => "IrreflexiveObjectProperty"
  | symmetric => "SymmetricObjectProperty"
  | asymmetric => "AsymmetricObjectProperty"
  | transitive => "TransitiveObjectProperty"

end Characteristic

namespace Axiom

/-- The sorts of axioms. -/
def sorts : List String :=
  ["Declaration", "SubClassOf", "EquivalentClasses", "DisjointClasses", "DisjointUnion",
    "SubObjectPropertyOf", "SubPropertyChainOf", "EquivalentObjectProperties",
    "DisjointObjectProperties", "InverseObjectProperties", "ObjectPropertyDomain",
    "ObjectPropertyRange", "FunctionalObjectProperty", "InverseFunctionalObjectProperty",
    "ReflexiveObjectProperty", "IrreflexiveObjectProperty", "SymmetricObjectProperty",
    "AsymmetricObjectProperty", "TransitiveObjectProperty", "SubDataPropertyOf",
    "EquivalentDataProperties", "DisjointDataProperties", "DataPropertyDomain",
    "DataPropertyRange", "FunctionalDataProperty", "DatatypeDefinition", "HasKey",
    "SameIndividual", "DifferentIndividuals", "ClassAssertion", "ObjectPropertyAssertion",
    "NegativeObjectPropertyAssertion", "DataPropertyAssertion",
    "NegativeDataPropertyAssertion"]

/-- Writes a list of class expressions. -/
def encodeClasses (classes : List ClassExpression) : Json :=
  .list (classes.map ClassExpression.encode)

/-- Writes a list of property expressions. -/
def encodeProperties (properties : List Property) : Json :=
  .list (properties.map Property.encode)

/-- Writes a list of individuals. -/
def encodeIndividuals (individuals : List Individual) : Json :=
  .list (individuals.map Json.string)

/-- Writes an axiom. -/
def encode : Axiom → Json
  | declaration entity => tagged "Declaration" entity.encode
  | subClassOf sub super => tagged "SubClassOf" (.list [sub.encode, super.encode])
  | equivalentClasses operands => tagged "EquivalentClasses" (encodeClasses operands)
  | disjointClasses operands => tagged "DisjointClasses" (encodeClasses operands)
  | disjointUnion iri operands =>
    tagged "DisjointUnion" (.list [.string iri, encodeClasses operands])
  | subObjectPropertyOf sub super =>
    tagged "SubObjectPropertyOf" (.list [sub.encode, super.encode])
  | subPropertyChainOf chain super =>
    tagged "SubPropertyChainOf" (.list [encodeProperties chain, super.encode])
  | equivalentObjectProperties operands =>
    tagged "EquivalentObjectProperties" (encodeProperties operands)
  | disjointObjectProperties operands =>
    tagged "DisjointObjectProperties" (encodeProperties operands)
  | inverseObjectProperties first second =>
    tagged "InverseObjectProperties" (.list [first.encode, second.encode])
  | objectPropertyDomain property domain =>
    tagged "ObjectPropertyDomain" (.list [property.encode, domain.encode])
  | objectPropertyRange property range =>
    tagged "ObjectPropertyRange" (.list [property.encode, range.encode])
  | objectProperty characteristic property => tagged characteristic.sort property.encode
  | subDataPropertyOf sub super => tagged "SubDataPropertyOf" (.list [sub.encode, super.encode])
  | equivalentDataProperties operands =>
    tagged "EquivalentDataProperties" (encodeProperties operands)
  | disjointDataProperties operands =>
    tagged "DisjointDataProperties" (encodeProperties operands)
  | dataPropertyDomain property domain =>
    tagged "DataPropertyDomain" (.list [property.encode, domain.encode])
  | dataPropertyRange property range =>
    tagged "DataPropertyRange" (.list [property.encode, range.encode])
  | functionalDataProperty property => tagged "FunctionalDataProperty" property.encode
  | datatypeDefinition iri range =>
    tagged "DatatypeDefinition" (.list [.string iri, range.encode])
  | hasKey subject properties =>
    tagged "HasKey" (.list [subject.encode, encodeProperties properties])
  | sameIndividual individuals => tagged "SameIndividual" (encodeIndividuals individuals)
  | differentIndividuals individuals =>
    tagged "DifferentIndividuals" (encodeIndividuals individuals)
  | classAssertion expression individual =>
    tagged "ClassAssertion" (.list [expression.encode, .string individual])
  | objectPropertyAssertion property source target =>
    tagged "ObjectPropertyAssertion" (.list [property.encode, .string source, .string target])
  | negativeObjectPropertyAssertion property source target =>
    tagged "NegativeObjectPropertyAssertion"
      (.list [property.encode, .string source, .string target])
  | dataPropertyAssertion property source value =>
    tagged "DataPropertyAssertion" (.list [property.encode, .string source, value.encode])
  | negativeDataPropertyAssertion property source value =>
    tagged "NegativeDataPropertyAssertion"
      (.list [property.encode, .string source, value.encode])

/-- Reads two parts into an axiom. -/
def decodePair {α β : Type} (make : α → β → Axiom) (first : Json → Except Problem α)
    (second : Json → Except Problem β) (json : Json) : Except Problem Axiom :=
  (fun (first, second) => make first second) <$> json.asPair first second

/-- Reads three parts into an axiom. -/
def decodeTriple {α β γ : Type} (make : α → β → γ → Axiom) (first : Json → Except Problem α)
    (second : Json → Except Problem β) (third : Json → Except Problem γ) (json : Json) :
    Except Problem Axiom :=
  (fun (first, second, third) => make first second third) <$> json.asTriple first second third

/-- Reads a list of property expressions. -/
def decodeProperties : Json → Except Problem (List Property) := Json.asList Property.decode

/-- Reads a list of individuals. -/
def decodeIndividuals : Json → Except Problem (List Individual) := Json.asList Json.asText

/-- Reads the parts of an axiom of the given sort. -/
def decodeParts (form : PayloadForm) (sort : String) (parts : Json) : Except Problem Axiom :=
  let expression := ClassExpression.decode form
  let expressions := ClassExpression.decodeList form
  let range := DataRange.decode form
  match sort with
  | "Declaration" => declaration <$> Entity.decode parts
  | "SubClassOf" => decodePair subClassOf expression expression parts
  | "EquivalentClasses" => equivalentClasses <$> expressions parts
  | "DisjointClasses" => disjointClasses <$> expressions parts
  | "DisjointUnion" => decodePair disjointUnion asText expressions parts
  | "SubObjectPropertyOf" => decodePair subObjectPropertyOf Property.decode Property.decode parts
  | "SubPropertyChainOf" => decodePair subPropertyChainOf decodeProperties Property.decode parts
  | "EquivalentObjectProperties" => equivalentObjectProperties <$> decodeProperties parts
  | "DisjointObjectProperties" => disjointObjectProperties <$> decodeProperties parts
  | "InverseObjectProperties" =>
    decodePair inverseObjectProperties Property.decode Property.decode parts
  | "ObjectPropertyDomain" =>
    decodePair objectPropertyDomain Property.decode expression parts
  | "ObjectPropertyRange" =>
    decodePair objectPropertyRange Property.decode expression parts
  | "FunctionalObjectProperty" => objectProperty .functional <$> Property.decode parts
  | "InverseFunctionalObjectProperty" =>
    objectProperty .inverseFunctional <$> Property.decode parts
  | "ReflexiveObjectProperty" => objectProperty .reflexive <$> Property.decode parts
  | "IrreflexiveObjectProperty" => objectProperty .irreflexive <$> Property.decode parts
  | "SymmetricObjectProperty" => objectProperty .symmetric <$> Property.decode parts
  | "AsymmetricObjectProperty" => objectProperty .asymmetric <$> Property.decode parts
  | "TransitiveObjectProperty" => objectProperty .transitive <$> Property.decode parts
  | "SubDataPropertyOf" => decodePair subDataPropertyOf Property.decode Property.decode parts
  | "EquivalentDataProperties" => equivalentDataProperties <$> decodeProperties parts
  | "DisjointDataProperties" => disjointDataProperties <$> decodeProperties parts
  | "DataPropertyDomain" =>
    decodePair dataPropertyDomain Property.decode expression parts
  | "DataPropertyRange" => decodePair dataPropertyRange Property.decode range parts
  | "FunctionalDataProperty" => functionalDataProperty <$> Property.decode parts
  | "DatatypeDefinition" => decodePair datatypeDefinition asText range parts
  | "HasKey" => decodePair hasKey expression decodeProperties parts
  | "SameIndividual" => sameIndividual <$> decodeIndividuals parts
  | "DifferentIndividuals" => differentIndividuals <$> decodeIndividuals parts
  | "ClassAssertion" => decodePair classAssertion expression asText parts
  | "ObjectPropertyAssertion" =>
    decodeTriple objectPropertyAssertion Property.decode asText asText parts
  | "NegativeObjectPropertyAssertion" =>
    decodeTriple negativeObjectPropertyAssertion Property.decode asText asText parts
  | "DataPropertyAssertion" =>
    decodeTriple dataPropertyAssertion Property.decode asText Literal.decode parts
  | "NegativeDataPropertyAssertion" =>
    decodeTriple negativeDataPropertyAssertion Property.decode asText Literal.decode parts
  | _ => .error (.mismatch (.unknownVariant sort sorts))

/-- Reads an axiom. -/
def decode (form : PayloadForm) : Json → Except Problem Axiom
  | .string name => .error (.mismatch (.bareName sorts name))
  | .object ((.name name, payload) :: more) stop => do
    let ax ← decodeParts form name payload
    Json.endAlternative more stop
    return ax
  | json => .error json.notAlternative

end Axiom

end OntologyModules
