import OntologyModules.Proofs.Cardinality.Describes
import OntologyModules.Proofs.Locality.Rules
import OntologyModules.Proofs.Semantics.Agreement
import OntologyModules.Proofs.Syntax.Typing

/-!
# Reading names outside a signature

An interpretation follows a signature when it reads every class and every property that is
outside the signature and not built in as the convention of the signature says. Any
interpretation can be adjusted to follow a signature without changing what the names in the
signature denote. In an interpretation that follows a signature the extents of names are right.
-/

namespace OntologyModules

universe u v

/-- What a name that is read in the flavour holds of. -/
def Flavour.reading {α : Type u} : Flavour → Set α
  | bottom => ∅
  | top => Set.univ

variable {Object : Type u} {Value : Type v}

namespace Interpretation

/-- The interpretation reads the names outside the signature as its convention says. -/
structure Follows (I : Interpretation Object Value) (signature : Signature) : Prop where
  /-- Classes have no individual or all. -/
  classes : ∀ iri, signature.Reads ⟨.namedClass, iri⟩ →
    I.classes iri = signature.convention.classes.reading
  /-- Object properties relate no individuals or all. -/
  objectProperties : ∀ iri, signature.Reads ⟨.objectProperty, iri⟩ →
    ∀ x, I.objectProperties iri x = signature.convention.properties.reading
  /-- Data properties relate an individual to no value or to all. -/
  dataProperties : ∀ iri, signature.Reads ⟨.dataProperty, iri⟩ →
    ∀ x, I.dataProperties iri x = signature.convention.properties.reading

/-- The interpretation with the names outside the signature read as its convention says. -/
def adjust (I : Interpretation Object Value) (signature : Signature) :
    Interpretation Object Value where
  classes := fun iri =>
    if signature.Reads ⟨.namedClass, iri⟩ then signature.convention.classes.reading
    else I.classes iri
  objectProperties := fun iri x =>
    if signature.Reads ⟨.objectProperty, iri⟩ then signature.convention.properties.reading
    else I.objectProperties iri x
  dataProperties := fun iri x =>
    if signature.Reads ⟨.dataProperty, iri⟩ then signature.convention.properties.reading
    else I.dataProperties iri x
  individuals := I.individuals
  named := I.named
  datatypes := I.datatypes
  literals := I.literals
  facets := I.facets
  individual_mem_named := I.individual_mem_named
  classes_thing := by
    rw [if_neg fun reads => absurd reads.2.1 (by decide)]
    exact I.classes_thing
  classes_nothing := by
    rw [if_neg fun reads => absurd reads.2.2 (by decide)]
    exact I.classes_nothing
  objectProperties_top := fun x => by
    rw [if_neg fun reads => absurd reads.2.1 (by decide)]
    exact I.objectProperties_top x
  objectProperties_bottom := fun x => by
    rw [if_neg fun reads => absurd reads.2.2 (by decide)]
    exact I.objectProperties_bottom x
  dataProperties_top := fun x => by
    rw [if_neg fun reads => absurd reads.2.1 (by decide)]
    exact I.dataProperties_top x
  dataProperties_bottom := fun x => by
    rw [if_neg fun reads => absurd reads.2.2 (by decide)]
    exact I.dataProperties_bottom x
  datatypes_literal := I.datatypes_literal

section

variable (I : Interpretation Object Value) (signature : Signature)

/-- The adjusted interpretation follows the signature. -/
theorem follows_adjust : (I.adjust signature).Follows signature where
  classes := fun _ reads => if_pos reads
  objectProperties := fun _ reads _ => if_pos reads
  dataProperties := fun _ reads _ => if_pos reads

/-- Adjusting changes nothing that the signature contains. -/
theorem agreesOn_adjust : I.AgreesOn (I.adjust signature) (· ∈ signature) where
  classes := fun _ mem => (if_neg fun reads => reads.1 mem).symm
  objectProperties := fun _ mem => funext fun _ => (if_neg fun reads => reads.1 mem).symm
  dataProperties := fun _ mem => funext fun _ => (if_neg fun reads => reads.1 mem).symm
  individuals := rfl
  named := rfl
  datatypes := rfl
  literals := rfl
  facets := rfl

end

end Interpretation

namespace Entity

variable {signature : Signature} {entity : Entity}

/-- The extent of a name is right about a set that is as the name is built in or read. -/
theorem describes_extent {α : Type u} {s : Set α} (top : entity.isTop = true → s = Set.univ)
    (bottom : entity.isBottom = true → s = ∅)
    (outside : signature.Reads entity → s = (signature.flavour entity.kind).reading) :
    (entity.extent signature).Describes s where
  full := fun full => by
    rcases full_iff.1 full with builtIn | ⟨reads, flavour⟩
    · exact top builtIn
    · rw [outside reads, flavour, Flavour.reading]
  empty := fun empty => by
    rcases empty_iff.1 empty with builtIn | ⟨reads, flavour⟩
    · exact bottom builtIn
    · rw [outside reads, flavour, Flavour.reading]

end Entity

namespace Interpretation.Follows

variable {I : Interpretation Object Value} {signature : Signature}

/-- The extent of a class name is right about the class. -/
theorem describes_class (follows : I.Follows signature) (iri : Iri) :
    (Entity.extent signature ⟨.namedClass, iri⟩).Describes (I.classes iri) := by
  refine Entity.describes_extent ?_ ?_ (follows.classes iri)
  · intro top
    obtain rfl : iri = Vocabulary.thing := beq_iff_eq.1 top
    exact I.classes_thing
  · intro bottom
    obtain rfl : iri = Vocabulary.nothing := beq_iff_eq.1 bottom
    exact I.classes_nothing

/-- The extent of an object property is right about what it relates to each individual. -/
theorem describes_objectRelation (follows : I.Follows signature) {property : Property}
    (typed : property.isObject = true) (x : Object) :
    (property.extent signature).Describes (I.objectRelation property x) := by
  induction property generalizing x with
  | object iri =>
    refine Entity.describes_extent ?_ ?_ fun reads => follows.objectProperties iri reads x
    · intro top
      obtain rfl : iri = Vocabulary.topObjectProperty := beq_iff_eq.1 top
      exact I.objectProperties_top x
    · intro bottom
      obtain rfl : iri = Vocabulary.bottomObjectProperty := beq_iff_eq.1 bottom
      exact I.objectProperties_bottom x
  | data iri => exact absurd typed Bool.false_ne_true
  | inverse property ih =>
    -- The hypothesis is about the property at every individual, the other ends of the inverse.
    constructor
    · intro full
      refine Set.eq_univ_of_forall fun y => ?_
      change x ∈ I.objectRelation property y
      rw [(ih typed y).full full]
      exact Set.mem_univ x
    · intro empty
      refine Set.eq_empty_of_forall_notMem fun y related => ?_
      change x ∈ I.objectRelation property y at related
      rw [(ih typed y).empty empty] at related
      exact related

/-- The extent of a data property is right about what it relates to each individual. -/
theorem describes_dataRelation (follows : I.Follows signature) {property : Property}
    (typed : property.isData = true) (x : Object) :
    (property.extent signature).Describes (I.dataRelation property x) := by
  cases property with
  | object iri => exact absurd typed Bool.false_ne_true
  | inverse property => exact absurd typed Bool.false_ne_true
  | data iri =>
    refine Entity.describes_extent ?_ ?_ fun reads => follows.dataProperties iri reads x
    · intro top
      obtain rfl : iri = Vocabulary.topDataProperty := beq_iff_eq.1 top
      exact I.dataProperties_top x
    · intro bottom
      obtain rfl : iri = Vocabulary.bottomDataProperty := beq_iff_eq.1 bottom
      exact I.dataProperties_bottom x

end Interpretation.Follows

end OntologyModules
