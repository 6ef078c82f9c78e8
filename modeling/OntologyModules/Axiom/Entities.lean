import OntologyModules.Axiom
import OntologyModules.Entity.Set

/-!
# The entities of an axiom

Which names an axiom mentions. The universal and the empty class have no name when they are
written as such, a property expression mentions its named property only, a literal mentions its
datatype, and a facet mentions the datatype of its constant but not itself. The entities of an
axiom are the set of these names (`Axiom.mem_entities`).
-/

namespace OntologyModules

namespace Literal

/-- The name of the literal's datatype. -/
def mention (literal : Literal) : Entity := ⟨.datatype, literal.datatype⟩

end Literal

namespace DataRange

mutual

/-- The names in a data range, in text order. -/
def mentions : DataRange → List Entity
  | datatype iri => [⟨.datatype, iri⟩]
  | complement range => mentions range
  | intersection operands => mentionsAll operands
  | union operands => mentionsAll operands
  | oneOf members => members.map Literal.mention
  | restriction iri facets => ⟨.datatype, iri⟩ :: facets.map (·.value.mention)

/-- The names in a list of data ranges, in text order. -/
def mentionsAll : List DataRange → List Entity
  | [] => []
  | first :: rest => mentions first ++ mentionsAll rest

end

/-- A list of data ranges mentions what its members mention. -/
theorem mentionsAll_eq_flatMap (ranges : List DataRange) :
    mentionsAll ranges = ranges.flatMap mentions := by
  induction ranges with
  | nil => rfl
  | cons first rest ih => rw [mentionsAll, ih, List.flatMap_cons]

end DataRange

namespace ClassExpression

mutual

/-- The names in a class expression, in text order. -/
def mentions : ClassExpression → List Entity
  | named iri => [⟨.namedClass, iri⟩]
  | thing | nothing => []
  | complement operand => mentions operand
  | intersection operands => mentionsAll operands
  | union operands => mentionsAll operands
  | oneOf members => members.map (⟨.individual, ·⟩)
  | object _ property filler => property.named :: mentions filler
  | objectCount _ property => [property.named]
  | hasValue property value => [property.named, ⟨.individual, value⟩]
  | hasSelf property => [property.named]
  | data _ property filler => property.named :: filler.mentions
  | dataCount _ property => [property.named]
  | dataHasValue property value => [property.named, value.mention]

/-- The names in a list of class expressions, in text order. -/
def mentionsAll : List ClassExpression → List Entity
  | [] => []
  | first :: rest => mentions first ++ mentionsAll rest

end

/-- A list of class expressions mentions what its members mention. -/
theorem mentionsAll_eq_flatMap (classes : List ClassExpression) :
    mentionsAll classes = classes.flatMap mentions := by
  induction classes with
  | nil => rfl
  | cons first rest ih => rw [mentionsAll, ih, List.flatMap_cons]

/-- A list of class expressions mentions all that one of its members mentions. -/
theorem mem_mentionsAll {expression : ClassExpression} {classes : List ClassExpression}
    (mem : expression ∈ classes) {entity : Entity} (mention : entity ∈ expression.mentions) :
    entity ∈ mentionsAll classes := by
  rw [mentionsAll_eq_flatMap]
  exact List.mem_flatMap.2 ⟨expression, mem, mention⟩

end ClassExpression

namespace Axiom

/-- The names in an axiom, in text order. -/
def mentions : Axiom → List Entity
  | declaration entity => [entity]
  | subClassOf sub super => sub.mentions ++ super.mentions
  | equivalentClasses operands | disjointClasses operands => operands.flatMap (·.mentions)
  | disjointUnion iri operands => ⟨.namedClass, iri⟩ :: operands.flatMap (·.mentions)
  | subObjectPropertyOf first second | subDataPropertyOf first second
  | inverseObjectProperties first second => [first.named, second.named]
  | subPropertyChainOf chain super => chain.map (·.named) ++ [super.named]
  | equivalentObjectProperties operands | disjointObjectProperties operands
  | equivalentDataProperties operands | disjointDataProperties operands =>
    operands.map (·.named)
  | objectPropertyDomain property expression | objectPropertyRange property expression
  | dataPropertyDomain property expression => property.named :: expression.mentions
  | dataPropertyRange property range => property.named :: range.mentions
  | objectProperty _ property | functionalDataProperty property => [property.named]
  | datatypeDefinition iri range => ⟨.datatype, iri⟩ :: range.mentions
  | hasKey subject properties => subject.mentions ++ properties.map (·.named)
  | sameIndividual individuals | differentIndividuals individuals =>
    individuals.map (⟨.individual, ·⟩)
  | classAssertion expression individual => expression.mentions ++ [⟨.individual, individual⟩]
  | objectPropertyAssertion property source target
  | negativeObjectPropertyAssertion property source target =>
    [property.named, ⟨.individual, source⟩, ⟨.individual, target⟩]
  | dataPropertyAssertion property source value
  | negativeDataPropertyAssertion property source value =>
    [property.named, ⟨.individual, source⟩, value.mention]

/-- The set of names in an axiom. -/
def entities (ax : Axiom) : EntitySet := .ofList ax.mentions

/-- The entities of an axiom are the names in it. -/
theorem mem_entities {ax : Axiom} {entity : Entity} :
    entity ∈ ax.entities ↔ entity ∈ ax.mentions := SortedSet.mem_ofList

end Axiom

end OntologyModules
