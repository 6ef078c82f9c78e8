import OntologyModules.Axiom.Entities
import OntologyModules.Proofs.Semantics.Interpretation
import OntologyModules.Proofs.Syntax.Induction

/-!
# What an axiom depends on

Two interpretations agree on some names when they differ at most in classes, object properties
and data properties of other names. The names that an expression or an axiom mentions are all
that it depends on: interpretations that agree on them give the expression the same extension
(`Interpretation.AgreesOn.classExtension`) and satisfy the axiom both or neither
(`Interpretation.AgreesOn.satisfies_iff`).
-/

namespace OntologyModules

universe u v

variable {Object : Type u} {Value : Type v}

namespace Interpretation

/-- The interpretations differ at most in classes and properties outside the given names. -/
structure AgreesOn (I J : Interpretation Object Value) (names : Entity → Prop) : Prop where
  /-- The given classes are the same. -/
  classes : ∀ iri, names ⟨.namedClass, iri⟩ → I.classes iri = J.classes iri
  /-- The given object properties are the same. -/
  objectProperties : ∀ iri, names ⟨.objectProperty, iri⟩ →
    I.objectProperties iri = J.objectProperties iri
  /-- The given data properties are the same. -/
  dataProperties : ∀ iri, names ⟨.dataProperty, iri⟩ → I.dataProperties iri = J.dataProperties iri
  /-- All names of individuals denote the same. -/
  individuals : I.individuals = J.individuals
  /-- The same individuals have names. -/
  named : I.named = J.named
  /-- All datatypes are the same. -/
  datatypes : I.datatypes = J.datatypes
  /-- All literals denote the same. -/
  literals : I.literals = J.literals
  /-- All facets are met by the same values. -/
  facets : I.facets = J.facets

namespace AgreesOn

variable {I J K : Interpretation Object Value} {names : Entity → Prop}

/-- Agreement on more names is agreement on fewer. -/
theorem mono (agree : I.AgreesOn J names) {fewer : Entity → Prop}
    (included : ∀ entity, fewer entity → names entity) : I.AgreesOn J fewer where
  classes := fun iri mem => agree.classes iri (included _ mem)
  objectProperties := fun iri mem => agree.objectProperties iri (included _ mem)
  dataProperties := fun iri mem => agree.dataProperties iri (included _ mem)
  individuals := agree.individuals
  named := agree.named
  datatypes := agree.datatypes
  literals := agree.literals
  facets := agree.facets

/-- Two changes outside the given names are one. -/
theorem trans (first : I.AgreesOn J names) (second : J.AgreesOn K names) : I.AgreesOn K names where
  classes := fun iri mem => (first.classes iri mem).trans (second.classes iri mem)
  objectProperties := fun iri mem =>
    (first.objectProperties iri mem).trans (second.objectProperties iri mem)
  dataProperties := fun iri mem =>
    (first.dataProperties iri mem).trans (second.dataProperties iri mem)
  individuals := first.individuals.trans second.individuals
  named := first.named.trans second.named
  datatypes := first.datatypes.trans second.datatypes
  literals := first.literals.trans second.literals
  facets := first.facets.trans second.facets

/-- A property expression with a given name relates the same individuals. -/
theorem objectRelation (agree : I.AgreesOn J names) {property : Property}
    (known : names property.named) : I.objectRelation property = J.objectRelation property := by
  induction property with
  | object iri =>
    funext x
    rw [Interpretation.objectRelation, Interpretation.objectRelation,
      agree.objectProperties iri known]
  | data iri => rfl
  | inverse property ih =>
    funext x
    rw [Interpretation.objectRelation, Interpretation.objectRelation, ih known]

/-- A property expression with a given name relates individuals to the same values. -/
theorem dataRelation (agree : I.AgreesOn J names) {property : Property}
    (known : names property.named) : I.dataRelation property = J.dataRelation property := by
  funext x
  cases property with
  | object iri => rfl
  | data iri =>
    rw [Interpretation.dataRelation, Interpretation.dataRelation, agree.dataProperties iri known]
  | inverse property => rfl

/-- A chain of properties with given names relates the same individuals. -/
theorem composition (agree : I.AgreesOn J names) {chain : List Property}
    (known : ∀ property ∈ chain, names property.named) :
    I.composition chain = J.composition chain := by
  induction chain with
  | nil => rfl
  | cons first rest ih =>
    obtain ⟨head, tail⟩ := List.forall_mem_cons.1 known
    funext x
    rw [Interpretation.composition, Interpretation.composition, agree.objectRelation head,
      ih tail]

/-- A data range depends on no class and no property. -/
theorem dataExtension (agree : I.AgreesOn J names) (range : DataRange) :
    I.dataExtension range = J.dataExtension range := by
  induction range with
  | datatype iri =>
    rw [Interpretation.dataExtension, Interpretation.dataExtension, agree.datatypes]
  | complement range ih => rw [Interpretation.dataExtension, Interpretation.dataExtension, ih]
  | intersection operands ih =>
    rw [Interpretation.dataExtension, Interpretation.dataExtension, dataExtensionAll_eq_map,
      dataExtensionAll_eq_map, List.map_congr_left ih]
  | union operands ih =>
    rw [Interpretation.dataExtension, Interpretation.dataExtension, dataExtensionAll_eq_map,
      dataExtensionAll_eq_map, List.map_congr_left ih]
  | oneOf members =>
    rw [Interpretation.dataExtension, Interpretation.dataExtension, agree.literals]
  | restriction iri facets =>
    rw [Interpretation.dataExtension, Interpretation.dataExtension, agree.datatypes, agree.facets]

/-- A class expression depends on no class and no property that it does not mention. -/
theorem classExtension (agree : I.AgreesOn J names) {expression : ClassExpression}
    (known : ∀ entity ∈ expression.mentions, names entity) :
    I.classExtension expression = J.classExtension expression := by
  have listed {operands : List ClassExpression}
      (ih : ∀ operand ∈ operands, (∀ entity ∈ operand.mentions, names entity) →
        I.classExtension operand = J.classExtension operand)
      (known : ∀ entity ∈ ClassExpression.mentionsAll operands, names entity) :
      I.classExtensionAll operands = J.classExtensionAll operands := by
    rw [classExtensionAll_eq_map, classExtensionAll_eq_map]
    refine List.map_congr_left fun operand mem => ih operand mem fun entity within => ?_
    exact known entity (ClassExpression.mem_mentionsAll mem within)
  induction expression with
  | named iri => exact agree.classes iri (known _ List.mem_cons_self)
  | thing => rfl
  | nothing => rfl
  | complement operand ih =>
    rw [Interpretation.classExtension, Interpretation.classExtension, ih known]
  | intersection operands ih =>
    rw [Interpretation.classExtension, Interpretation.classExtension, listed ih known]
  | union operands ih =>
    rw [Interpretation.classExtension, Interpretation.classExtension, listed ih known]
  | oneOf members =>
    rw [Interpretation.classExtension, Interpretation.classExtension, agree.individuals]
  | object quantifier property filler ih =>
    obtain ⟨relation, inside⟩ := List.forall_mem_cons.1 known
    rw [Interpretation.classExtension, Interpretation.classExtension,
      agree.objectRelation relation, ih inside]
  | objectCount count property =>
    rw [Interpretation.classExtension, Interpretation.classExtension,
      agree.objectRelation (known _ List.mem_cons_self)]
  | hasValue property value =>
    rw [Interpretation.classExtension, Interpretation.classExtension,
      agree.objectRelation (known _ List.mem_cons_self), agree.individuals]
  | hasSelf property =>
    rw [Interpretation.classExtension, Interpretation.classExtension,
      agree.objectRelation (known _ List.mem_cons_self)]
  | data quantifier property filler =>
    rw [Interpretation.classExtension, Interpretation.classExtension,
      agree.dataRelation (known _ List.mem_cons_self), agree.dataExtension]
  | dataCount count property =>
    rw [Interpretation.classExtension, Interpretation.classExtension,
      agree.dataRelation (known _ List.mem_cons_self)]
  | dataHasValue property value =>
    rw [Interpretation.classExtension, Interpretation.classExtension,
      agree.dataRelation (known _ List.mem_cons_self), agree.literals]

section

variable (agree : I.AgreesOn J names)

include agree

/-- Class expressions that together mention given names only have the same extensions. -/
theorem classExtensions {operands : List ClassExpression}
    (known : ∀ entity ∈ operands.flatMap (·.mentions), names entity) :
    ∀ operand ∈ operands, I.classExtension operand = J.classExtension operand := by
  intro operand mem
  apply agree.classExtension
  intro entity within
  exact known entity (List.mem_flatMap.2 ⟨operand, mem, within⟩)

/-- Properties with given names relate the same individuals. -/
theorem objectRelations {operands : List Property}
    (known : ∀ entity ∈ operands.map (·.named), names entity) :
    ∀ operand ∈ operands, I.objectRelation operand = J.objectRelation operand :=
  fun _ mem => agree.objectRelation (known _ (List.mem_map_of_mem mem))

/-- Properties with given names relate individuals to the same values. -/
theorem dataRelations {operands : List Property}
    (known : ∀ entity ∈ operands.map (·.named), names entity) :
    ∀ operand ∈ operands, I.dataRelation operand = J.dataRelation operand :=
  fun _ mem => agree.dataRelation (known _ (List.mem_map_of_mem mem))

/-- Individuals share the same things along properties with given names. -/
theorem shares {properties : List Property}
    (known : ∀ entity ∈ properties.map (·.named), names entity) (x y : Object) :
    (∀ property ∈ properties, I.Shares property x y) ↔
      ∀ property ∈ properties, J.Shares property x y := by
  refine forall₂_congr fun property mem => ?_
  rw [Shares, Shares, agree.named, agree.objectRelations known property mem,
    agree.dataRelations known property mem]

end

/-- Whether all operands denote the same depends only on what each of them denotes. -/
private theorem all_same_iff {ι : Type} {α : Type*} {operands : List ι} {first second : ι → α}
    (same : ∀ operand ∈ operands, first operand = second operand) :
    (∀ left ∈ operands, ∀ right ∈ operands, first left = first right) ↔
      ∀ left ∈ operands, ∀ right ∈ operands, second left = second right := by
  refine forall₂_congr fun left mem => forall₂_congr fun right mem' => ?_
  rw [same left mem, same right mem']

/-- An axiom depends on no class and no property that it does not mention. -/
theorem satisfies_iff (agree : I.AgreesOn J names) {ax : Axiom}
    (known : ∀ entity ∈ ax.mentions, names entity) : I.Satisfies ax ↔ J.Satisfies ax := by
  cases ax with
  | declaration entity => rfl
  | subClassOf sub super =>
    obtain ⟨left, right⟩ := List.forall_mem_append.1 known
    rw [Satisfies, Satisfies, agree.classExtension left, agree.classExtension right]
  | equivalentClasses operands =>
    exact all_same_iff (agree.classExtensions known)
  | disjointClasses operands =>
    rw [Satisfies, Satisfies, List.map_congr_left (agree.classExtensions known)]
  | disjointUnion iri operands =>
    obtain ⟨whole, parts⟩ := List.forall_mem_cons.1 known
    rw [Satisfies, Satisfies, agree.classes iri whole,
      List.map_congr_left (agree.classExtensions parts)]
  | subObjectPropertyOf sub super =>
    obtain ⟨left, right, -⟩ := List.forall_mem_cons.1 known |>.imp_right List.forall_mem_cons.1
    rw [Satisfies, Satisfies, agree.objectRelation left, agree.objectRelation right]
  | subPropertyChainOf chain super =>
    obtain ⟨links, whole⟩ := List.forall_mem_append.1 known
    rw [Satisfies, Satisfies, agree.composition (List.forall_mem_map.1 links),
      agree.objectRelation (whole _ List.mem_cons_self)]
  | equivalentObjectProperties operands =>
    exact all_same_iff (agree.objectRelations known)
  | disjointObjectProperties operands =>
    rw [Satisfies, Satisfies, List.map_congr_left (agree.objectRelations known)]
  | inverseObjectProperties first second =>
    obtain ⟨left, right, -⟩ := List.forall_mem_cons.1 known |>.imp_right List.forall_mem_cons.1
    rw [Satisfies, Satisfies, agree.objectRelation left, agree.objectRelation right]
  | objectPropertyDomain property domain =>
    obtain ⟨relation, inside⟩ := List.forall_mem_cons.1 known
    rw [Satisfies, Satisfies, agree.objectRelation relation, agree.classExtension inside]
  | objectPropertyRange property range =>
    obtain ⟨relation, inside⟩ := List.forall_mem_cons.1 known
    rw [Satisfies, Satisfies, agree.objectRelation relation, agree.classExtension inside]
  | objectProperty characteristic property =>
    rw [Satisfies, Satisfies, agree.objectRelation (known _ List.mem_cons_self)]
  | subDataPropertyOf sub super =>
    obtain ⟨left, right, -⟩ := List.forall_mem_cons.1 known |>.imp_right List.forall_mem_cons.1
    rw [Satisfies, Satisfies, agree.dataRelation left, agree.dataRelation right]
  | equivalentDataProperties operands =>
    exact all_same_iff (agree.dataRelations known)
  | disjointDataProperties operands =>
    rw [Satisfies, Satisfies, List.map_congr_left (agree.dataRelations known)]
  | dataPropertyDomain property domain =>
    obtain ⟨relation, inside⟩ := List.forall_mem_cons.1 known
    rw [Satisfies, Satisfies, agree.dataRelation relation, agree.classExtension inside]
  | dataPropertyRange property range =>
    rw [Satisfies, Satisfies, agree.dataRelation (known _ List.mem_cons_self),
      agree.dataExtension range]
  | functionalDataProperty property =>
    rw [Satisfies, Satisfies, agree.dataRelation (known _ List.mem_cons_self)]
  | datatypeDefinition iri range =>
    rw [Satisfies, Satisfies, agree.datatypes, agree.dataExtension range]
  | hasKey subject properties =>
    obtain ⟨inside, keys⟩ := List.forall_mem_append.1 known
    simp only [Satisfies, agree.classExtension inside, agree.named, agree.shares keys]
  | sameIndividual individuals => rw [Satisfies, Satisfies, agree.individuals]
  | differentIndividuals individuals => rw [Satisfies, Satisfies, agree.individuals]
  | classAssertion expression individual =>
    obtain ⟨inside, -⟩ := List.forall_mem_append.1 known
    rw [Satisfies, Satisfies, agree.classExtension inside, agree.individuals]
  | objectPropertyAssertion property source target =>
    rw [Satisfies, Satisfies, agree.objectRelation (known _ List.mem_cons_self),
      agree.individuals]
  | negativeObjectPropertyAssertion property source target =>
    rw [Satisfies, Satisfies, agree.objectRelation (known _ List.mem_cons_self),
      agree.individuals]
  | dataPropertyAssertion property source value =>
    rw [Satisfies, Satisfies, agree.dataRelation (known _ List.mem_cons_self), agree.individuals,
      agree.literals]
  | negativeDataPropertyAssertion property source value =>
    rw [Satisfies, Satisfies, agree.dataRelation (known _ List.mem_cons_self), agree.individuals,
      agree.literals]

end AgreesOn

end Interpretation

end OntologyModules
