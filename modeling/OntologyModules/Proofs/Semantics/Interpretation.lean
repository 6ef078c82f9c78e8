import Mathlib
import OntologyModules.Axiom

/-!
# Interpretations

The direct semantics of the language. An interpretation says what the names of an ontology
denote in a domain of individuals and a domain of literal values; the built-in classes and
properties and the datatype of all literals have their fixed meaning in every interpretation.
From it follow the extension of every data range and class expression and whether an axiom is
satisfied. Both domains are non-empty, since individuals and literals denote.

A relation is kept as the function from a thing to the set of things it is related to. A
property expression that stands where its sort is not expected relates nothing.
-/

namespace OntologyModules

universe u v

/-- The elements that every set of a list has. -/
def interList {α : Type u} (sets : List (Set α)) : Set α := {x | ∀ s ∈ sets, x ∈ s}

/-- The elements that some set of a list has. -/
def unionList {α : Type u} (sets : List (Set α)) : Set α := {x | ∃ s ∈ sets, x ∈ s}

/-- Every element is common to no sets. -/
theorem interList_nil {α : Type u} : interList ([] : List (Set α)) = Set.univ := by
  ext x
  simp [interList]

/-- The elements common to a set and further sets. -/
theorem interList_cons {α : Type u} (s : Set α) (sets : List (Set α)) :
    interList (s :: sets) = s ∩ interList sets := by
  ext x
  simp [interList]

/-- What lies in some set lies outside of what the complements have in common. -/
theorem unionList_eq_compl {α : Type u} (sets : List (Set α)) :
    unionList sets = (interList (sets.map compl))ᶜ := by
  ext x
  simp only [unionList, interList, Set.mem_compl_iff, Set.mem_ofPred_eq, List.forall_mem_map,
    not_forall, not_not, exists_prop]

/-- What the names of an ontology denote. -/
structure Interpretation (Object : Type u) (Value : Type v) where
  /-- The individuals of a class. -/
  classes : Iri → Set Object
  /-- The individuals that an object property relates an individual to. -/
  objectProperties : Iri → Object → Set Object
  /-- The values that a data property relates an individual to. -/
  dataProperties : Iri → Object → Set Value
  /-- The individual of a name. -/
  individuals : Individual → Object
  /-- The individuals that have names, as keys ask for them. -/
  named : Set Object
  /-- The values of a datatype. -/
  datatypes : Iri → Set Value
  /-- The value of a literal. -/
  literals : Literal → Value
  /-- The values that meet a facet. -/
  facets : Facet → Set Value
  /-- The individual of a name has a name. -/
  individual_mem_named : ∀ name, individuals name ∈ named
  /-- The universal class has every individual. -/
  classes_thing : classes Vocabulary.thing = Set.univ
  /-- The empty class has none. -/
  classes_nothing : classes Vocabulary.nothing = ∅
  /-- The universal object property relates everything to every individual. -/
  objectProperties_top : ∀ x, objectProperties Vocabulary.topObjectProperty x = Set.univ
  /-- The empty object property relates nothing. -/
  objectProperties_bottom : ∀ x, objectProperties Vocabulary.bottomObjectProperty x = ∅
  /-- The universal data property relates everything to every value. -/
  dataProperties_top : ∀ x, dataProperties Vocabulary.topDataProperty x = Set.univ
  /-- The empty data property relates nothing. -/
  dataProperties_bottom : ∀ x, dataProperties Vocabulary.bottomDataProperty x = ∅
  /-- The datatype of all literals has every value. -/
  datatypes_literal : datatypes Vocabulary.literal = Set.univ

/-- Over inhabited domains no name needs to hold of anything but those built in to do so. -/
instance {Object : Type u} {Value : Type v} [Inhabited Object] [Inhabited Value] :
    Inhabited (Interpretation Object Value) where
  default := {
    classes := fun iri => if iri = Vocabulary.thing then Set.univ else ∅
    objectProperties := fun iri _ => if iri = Vocabulary.topObjectProperty then Set.univ else ∅
    dataProperties := fun iri _ => if iri = Vocabulary.topDataProperty then Set.univ else ∅
    individuals := fun _ => default
    named := Set.univ
    datatypes := fun iri => if iri = Vocabulary.literal then Set.univ else ∅
    literals := fun _ => default
    facets := fun _ => Set.univ
    individual_mem_named := fun _ => Set.mem_univ _
    classes_thing := if_pos rfl
    classes_nothing := if_neg (by decide)
    objectProperties_top := fun _ => if_pos rfl
    objectProperties_bottom := fun _ => if_neg (by decide)
    dataProperties_top := fun _ => if_pos rfl
    dataProperties_bottom := fun _ => if_neg (by decide)
    datatypes_literal := if_pos rfl }

namespace Count

/-- Whether a set has as many elements as the limit asks. -/
def Admits {α : Type u} (s : Set α) : Count → Prop
  | atLeast number => (number.toNat : ℕ∞) ≤ s.encard
  | atMost number => s.encard ≤ number.toNat
  | exactly number => s.encard = number.toNat

end Count

namespace Quantifier

/-- Whether the related things are in the filler as the quantifier asks. -/
def Admits {α : Type u} (related filler : Set α) : Quantifier → Prop
  | existential => (related ∩ filler).Nonempty
  | universal => related ⊆ filler
  | count limit => limit.Admits (related ∩ filler)

end Quantifier

namespace Characteristic

/-- Whether a relation on one domain has the characteristic. -/
def Holds {α : Type u} (relation : α → Set α) : Characteristic → Prop
  | functional => ∀ x, (relation x).Subsingleton
  | inverseFunctional => ∀ x y z, z ∈ relation x → z ∈ relation y → x = y
  | reflexive => ∀ x, x ∈ relation x
  | irreflexive => ∀ x, x ∉ relation x
  | symmetric => ∀ x y, y ∈ relation x → x ∈ relation y
  | asymmetric => ∀ x y, y ∈ relation x → x ∉ relation y
  | transitive => ∀ x y z, y ∈ relation x → z ∈ relation y → z ∈ relation x

end Characteristic

namespace Interpretation

variable {Object : Type u} {Value : Type v} (I : Interpretation Object Value)

/-- The relation between individuals that a property expression denotes. -/
def objectRelation : Property → Object → Set Object
  | .object iri, x => I.objectProperties iri x
  | .data _, _ => ∅
  | .inverse property, x => {y | x ∈ objectRelation property y}

/-- The relation from individuals to values that a property expression denotes. -/
def dataRelation : Property → Object → Set Value
  | .data iri, x => I.dataProperties iri x
  | .object _, _ | .inverse _, _ => ∅

/-- The relation of following a chain of properties one after the other. -/
def composition : List Property → Object → Set Object
  | [], x => {x}
  | first :: rest, x => {z | ∃ y ∈ I.objectRelation first x, z ∈ composition rest y}

mutual

/-- The values of a data range. -/
def dataExtension : DataRange → Set Value
  | .datatype iri => I.datatypes iri
  | .complement range => (dataExtension range)ᶜ
  | .intersection operands => interList (dataExtensionAll operands)
  | .union operands => unionList (dataExtensionAll operands)
  | .oneOf members => {value | ∃ member ∈ members, I.literals member = value}
  | .restriction iri facets => {value ∈ I.datatypes iri | ∀ facet ∈ facets, value ∈ I.facets facet}

/-- The values of each data range of a list. -/
def dataExtensionAll : List DataRange → List (Set Value)
  | [] => []
  | first :: rest => dataExtension first :: dataExtensionAll rest

end

/-- Each data range of a list has its own extension. -/
theorem dataExtensionAll_eq_map (ranges : List DataRange) :
    I.dataExtensionAll ranges = ranges.map I.dataExtension := by
  induction ranges with
  | nil => rfl
  | cons first rest ih => rw [dataExtensionAll, ih, List.map_cons]

mutual

/-- The individuals of a class expression. -/
def classExtension : ClassExpression → Set Object
  | .named iri => I.classes iri
  | .thing => Set.univ
  | .nothing => ∅
  | .complement operand => (classExtension operand)ᶜ
  | .intersection operands => interList (classExtensionAll operands)
  | .union operands => unionList (classExtensionAll operands)
  | .oneOf members => {x | ∃ member ∈ members, I.individuals member = x}
  | .object quantifier property filler =>
    {x | quantifier.Admits (I.objectRelation property x) (classExtension filler)}
  | .objectCount count property => {x | count.Admits (I.objectRelation property x)}
  | .hasValue property value => {x | I.individuals value ∈ I.objectRelation property x}
  | .hasSelf property => {x | x ∈ I.objectRelation property x}
  | .data quantifier property filler =>
    {x | quantifier.Admits (I.dataRelation property x) (I.dataExtension filler)}
  | .dataCount count property => {x | count.Admits (I.dataRelation property x)}
  | .dataHasValue property value => {x | I.literals value ∈ I.dataRelation property x}

/-- The individuals of each class expression of a list. -/
def classExtensionAll : List ClassExpression → List (Set Object)
  | [] => []
  | first :: rest => classExtension first :: classExtensionAll rest

end

/-- Each class expression of a list has its own extension. -/
theorem classExtensionAll_eq_map (classes : List ClassExpression) :
    I.classExtensionAll classes = classes.map I.classExtension := by
  induction classes with
  | nil => rfl
  | cons first rest ih => rw [classExtensionAll, ih, List.map_cons]

/-- Whether two individuals share a named individual or a value along a property of a key. -/
def Shares (property : Property) (x y : Object) : Prop :=
  (∃ z ∈ I.named, z ∈ I.objectRelation property x ∧ z ∈ I.objectRelation property y) ∨
    ∃ z, z ∈ I.dataRelation property x ∧ z ∈ I.dataRelation property y

/-- Whether the interpretation satisfies an axiom. -/
def Satisfies : Axiom → Prop
  | .declaration _ => True
  | .subClassOf sub super => I.classExtension sub ⊆ I.classExtension super
  | .equivalentClasses operands =>
    ∀ first ∈ operands, ∀ second ∈ operands, I.classExtension first = I.classExtension second
  | .disjointClasses operands => (operands.map I.classExtension).Pairwise Disjoint
  | .disjointUnion iri operands =>
    I.classes iri = unionList (operands.map I.classExtension) ∧
      (operands.map I.classExtension).Pairwise Disjoint
  | .subObjectPropertyOf sub super => ∀ x, I.objectRelation sub x ⊆ I.objectRelation super x
  | .subPropertyChainOf chain super => ∀ x, I.composition chain x ⊆ I.objectRelation super x
  | .equivalentObjectProperties operands =>
    ∀ first ∈ operands, ∀ second ∈ operands, I.objectRelation first = I.objectRelation second
  | .disjointObjectProperties operands =>
    (operands.map I.objectRelation).Pairwise fun first second => ∀ x, Disjoint (first x) (second x)
  | .inverseObjectProperties first second =>
    ∀ x y, y ∈ I.objectRelation first x ↔ x ∈ I.objectRelation second y
  | .objectPropertyDomain property domain =>
    ∀ x, (I.objectRelation property x).Nonempty → x ∈ I.classExtension domain
  | .objectPropertyRange property range =>
    ∀ x, I.objectRelation property x ⊆ I.classExtension range
  | .objectProperty characteristic property => characteristic.Holds (I.objectRelation property)
  | .subDataPropertyOf sub super => ∀ x, I.dataRelation sub x ⊆ I.dataRelation super x
  | .equivalentDataProperties operands =>
    ∀ first ∈ operands, ∀ second ∈ operands, I.dataRelation first = I.dataRelation second
  | .disjointDataProperties operands =>
    (operands.map I.dataRelation).Pairwise fun first second => ∀ x, Disjoint (first x) (second x)
  | .dataPropertyDomain property domain =>
    ∀ x, (I.dataRelation property x).Nonempty → x ∈ I.classExtension domain
  | .dataPropertyRange property range => ∀ x, I.dataRelation property x ⊆ I.dataExtension range
  | .functionalDataProperty property => ∀ x, (I.dataRelation property x).Subsingleton
  | .datatypeDefinition iri range => I.datatypes iri = I.dataExtension range
  | .hasKey subject properties =>
    ∀ x ∈ I.classExtension subject ∩ I.named, ∀ y ∈ I.classExtension subject ∩ I.named,
      (∀ property ∈ properties, I.Shares property x y) → x = y
  | .sameIndividual individuals =>
    ∀ first ∈ individuals, ∀ second ∈ individuals, I.individuals first = I.individuals second
  | .differentIndividuals individuals => (individuals.map I.individuals).Pairwise (· ≠ ·)
  | .classAssertion expression individual =>
    I.individuals individual ∈ I.classExtension expression
  | .objectPropertyAssertion property source target =>
    I.individuals target ∈ I.objectRelation property (I.individuals source)
  | .negativeObjectPropertyAssertion property source target =>
    I.individuals target ∉ I.objectRelation property (I.individuals source)
  | .dataPropertyAssertion property source value =>
    I.literals value ∈ I.dataRelation property (I.individuals source)
  | .negativeDataPropertyAssertion property source value =>
    I.literals value ∉ I.dataRelation property (I.individuals source)

include I

/-- An interpretation has an individual, since names denote. -/
theorem nonempty_object : Nonempty Object := ⟨I.individuals ""⟩

/-- An interpretation has a value, since literals denote. -/
theorem nonempty_value : Nonempty Value := ⟨I.literals (.ofString "")⟩

end Interpretation

end OntologyModules
