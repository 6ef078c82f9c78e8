import OntologyModules.Axiom.Entities
import OntologyModules.Axiom.Fault

/-!
# Ontologies

An ontology lists its axioms in the order they were added, beside the set of the entities that
they mention. The set is kept by the operations and not recomputed, so a stored ontology may
list other entities. `Ontology.tryAdd` refuses a faulty axiom and then adds nothing. The same
operations are also calls on an ontology in place (`Ontology.perform`).
-/

namespace OntologyModules

/-- A list of axioms with the entities they mention. -/
structure Ontology where
  /-- The name of the ontology, if it has one. -/
  iri : Option Iri
  /-- The axioms in the order they were added. -/
  axioms : List Axiom
  /-- The entities mentioned. -/
  entities : EntitySet
deriving DecidableEq

namespace Ontology

/-- The ontology without axioms and without a name. -/
def empty : Ontology := ⟨none, [], .empty⟩

/-- The ontology without axioms that has the given name. -/
def withIri (iri : Iri) : Ontology := ⟨some iri, [], .empty⟩

/-- The ontology with one more axiom at its end. -/
def add (ontology : Ontology) (ax : Axiom) : Ontology where
  iri := ontology.iri
  axioms := ontology.axioms ++ [ax]
  entities := ontology.entities.union ax.entities

/-- The ontology with one more axiom at its end, provided that the axiom is well formed. -/
def tryAdd (ontology : Ontology) (ax : Axiom) : Except Fault Ontology :=
  match ax.fault? with
  | some fault => .error fault
  | none => .ok (ontology.add ax)

/-- The unnamed ontology of the given axioms. -/
def ofList (axioms : List Axiom) : Ontology := axioms.foldl add empty

/-- A call that changes an ontology in place. -/
inductive Call where
  /-- Adds an axiom as it is. -/
  | add (ax : Axiom)
  /-- Adds an axiom provided that it is well formed. -/
  | tryAdd (ax : Axiom)
deriving DecidableEq

/-- What a call does, step by step. A refusal ends the call; the steps taken before it are not
taken back. -/
def Call.run : Call → ExceptT Fault (StateM Ontology) Unit
  | add ax => modify (Ontology.add · ax)
  | tryAdd ax => do
    ax.validate
    modify (Ontology.add · ax)

/-- The answer to a call, and the ontology after it. -/
def perform (ontology : Ontology) (call : Call) : Except Fault Unit × Ontology :=
  call.run.run.run ontology

/-- How many axioms there are. -/
def size (ontology : Ontology) : Nat := ontology.axioms.length

/-- The axioms that are not declarations, in order. -/
def logicalAxioms (ontology : Ontology) : List Axiom := ontology.axioms.filter (·.isLogical)

/-- The fault of the first faulty axiom. -/
def fault? (ontology : Ontology) : Option Fault := ontology.axioms.findSome? (·.fault?)

/-- Adding axioms puts them at the end, in order. -/
theorem axioms_foldl_add (ontology : Ontology) (axioms : List Axiom) :
    (axioms.foldl add ontology).axioms = ontology.axioms ++ axioms := by
  induction axioms generalizing ontology with
  | nil => exact (List.append_nil ontology.axioms).symm
  | cons first rest ih =>
    rw [List.foldl_cons, ih (ontology.add first), add, List.append_assoc, List.singleton_append]

/-- The ontology of the given axioms has them in the given order. -/
theorem axioms_ofList (axioms : List Axiom) : (ofList axioms).axioms = axioms :=
  axioms_foldl_add empty axioms

/-- Adding an axiom adds its entities and nothing else. -/
theorem mem_entities_add {ontology : Ontology} {ax : Axiom} {entity : Entity} :
    entity ∈ (ontology.add ax).entities ↔ entity ∈ ontology.entities ∨ entity ∈ ax.entities :=
  SortedSet.mem_union

end Ontology

end OntologyModules
