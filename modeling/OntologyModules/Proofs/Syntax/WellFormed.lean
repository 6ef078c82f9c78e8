import Mathlib.Data.List.Basic
import OntologyModules.Extraction
import OntologyModules.Proofs.Syntax.Parts

/-!
# Well-formed axioms

An axiom is well formed when its own operand list and every part in it, at any depth, have the
operands they need (`Axiom.IsWellFormed`). What a well-formed axiom is, which list an axiom has
(`Axiom.HasList`), and which fault of another axiom comes first (`Axiom.FirstFault`), are said here
of the axiom by its kind and of its parts in their order, with no recursion into them and without
the tables of the checker. The checker accepts exactly the well-formed axioms and refuses the
others for the first fault; an extraction that checks its ontology is refused exactly for the
first fault of the first axiom that is not well formed (`Ontology.extractChecked_iff`).
-/

namespace OntologyModules

/-- What is found first in one list after another is found first in all of them. -/
theorem findSome?_flatMap {α β γ : Type} (find : β → Option γ) (lists : α → List β)
    (items : List α) :
    (items.flatMap lists).findSome? find =
      items.findSome? fun item => (lists item).findSome? find := by
  simp only [← List.head?_filterMap, List.filterMap_flatMap, List.head?_flatMap]

/-- What is found first depends only on what is found in the items. -/
theorem findSome?_congr {α β : Type} {find search : α → Option β} {items : List α}
    (same : ∀ item ∈ items, find item = search item) :
    items.findSome? find = items.findSome? search := by
  rw [← List.head?_filterMap, List.filterMap_congr same, List.head?_filterMap]

/-- A fault is reported of a list with fewer members than it needs, and of no other. -/
theorem tooShort_eq_none_iff {found minimum : Nat} {fault : Fault} :
    (if found < minimum then some fault else none) = none ↔ minimum ≤ found := by
  rw [ite_eq_right_iff, imp_iff_not (Option.some_ne_none fault), Nat.not_lt]

/-- The first fault in a list of data ranges is that of its first faulty member. -/
theorem DataRange.firstFault?_eq_findSome? (ranges : List DataRange) :
    firstFault? ranges = ranges.findSome? fault? := by
  induction ranges with
  | nil => rfl
  | cons first rest ih =>
    rw [firstFault?, ih, List.findSome?_cons]
    cases first.fault? <;> rfl

/-- The first fault in a list of class expressions is that of its first faulty member. -/
theorem ClassExpression.firstFault?_eq_findSome? (classes : List ClassExpression) :
    firstFault? classes = classes.findSome? fault? := by
  induction classes with
  | nil => rfl
  | cons first rest ih =>
    rw [firstFault?, ih, List.findSome?_cons]
    cases first.fault? <;> rfl

namespace Part

/-- The part itself has the operands it needs, whatever its operands are: two for an
intersection or a union, and one member for an enumeration. -/
def HasEnough : Part → Prop
  | ofClass (.intersection operands) | ofClass (.union operands) => 2 ≤ operands.length
  | ofRange (.intersection operands) | ofRange (.union operands) => 2 ≤ operands.length
  | ofClass (.oneOf members) => 1 ≤ members.length
  | ofRange (.oneOf members) => 1 ≤ members.length
  | _ => True

/-- The fault of the part itself, whatever its operands are. -/
def ownFault? : Part → Option Fault
  | ofClass (.intersection operands) | ofClass (.union operands) =>
    if operands.length < 2 then some (.shortClassConnective operands.length) else none
  | ofRange (.intersection operands) | ofRange (.union operands) =>
    if operands.length < 2 then some (.shortRangeConnective operands.length) else none
  | ofClass (.oneOf []) => some .emptyEnumeration
  | ofRange (.oneOf []) => some .emptyRangeEnumeration
  | _ => none

/-- A part has no fault of its own exactly when it has the operands it needs. -/
theorem ownFault?_eq_none_iff {part : Part} : part.ownFault? = none ↔ part.HasEnough := by
  cases part with
  | ofClass expression =>
    cases expression with
    | intersection operands | union operands => exact tooShort_eq_none_iff
    | oneOf members =>
      cases members with
      | nil => exact iff_of_false (Option.some_ne_none _) (Nat.not_succ_le_zero 0)
      | cons first rest => exact iff_of_true rfl (Nat.le_add_left 1 rest.length)
    | _ => exact iff_of_true rfl trivial
  | ofRange range =>
    cases range with
    | intersection operands | union operands => exact tooShort_eq_none_iff
    | oneOf members =>
      cases members with
      | nil => exact iff_of_false (Option.some_ne_none _) (Nat.not_succ_le_zero 0)
      | cons first rest => exact iff_of_true rfl (Nat.le_add_left 1 rest.length)
    | _ => exact iff_of_true rfl trivial

/-- The first fault that the checker finds in the part. -/
def fault? : Part → Option Fault
  | ofClass expression => expression.fault?
  | ofRange range => range.fault?

/-- The first fault in a list of class expressions, as parts. -/
theorem firstFault?_ofClass (operands : List ClassExpression) :
    ClassExpression.firstFault? operands = (operands.map ofClass).findSome? fault? := by
  rw [ClassExpression.firstFault?_eq_findSome?, List.findSome?_map]
  rfl

/-- The first fault in a list of data ranges, as parts. -/
theorem firstFault?_ofRange (operands : List DataRange) :
    DataRange.firstFault? operands = (operands.map ofRange).findSome? fault? := by
  rw [DataRange.firstFault?_eq_findSome?, List.findSome?_map]
  rfl

/-- The checker finds the fault of a part before those of its children, from left to right. -/
theorem fault?_eq (part : Part) :
    part.fault? = (part.ownFault?.or (part.children.findSome? fault?)) := by
  have connective (found : Nat) (fault : Fault) (others : Option Fault) :
      (if found < 2 then some fault else others) =
        (if found < 2 then some fault else none).or others := by
    split <;> rfl
  have single (child : Part) : child.fault? = [child].findSome? fault? :=
    List.findSome?_singleton.symm
  cases part with
  | ofClass expression =>
    cases expression with
    | intersection operands | union operands =>
      exact (connective _ _ _).trans (congrArg _ (firstFault?_ofClass operands))
    | complement operand => exact single (ofClass operand)
    | object quantifier property filler => exact single (ofClass filler)
    | data quantifier property filler => exact single (ofRange filler)
    | oneOf members => cases members <;> rfl
    | _ => rfl
  | ofRange range =>
    cases range with
    | intersection operands | union operands =>
      exact (connective _ _ _).trans (congrArg _ (firstFault?_ofRange operands))
    | complement operand => exact single (ofRange operand)
    | oneOf members => cases members <;> rfl
    | _ => rfl

/-- The checker finds the fault of the first part that has one of its own. -/
theorem fault?_eq_findSome? (part : Part) : part.fault? = part.preorder.findSome? ownFault? := by
  induction part with
  | step part ih =>
    -- Both sides look at the part itself and then at its children, one after the other.
    rw [fault?_eq, preorder_eq, List.findSome?_cons, findSome?_flatMap, findSome?_congr ih]
    cases part.ownFault? <;> rfl

end Part

namespace Axiom

/-- The axiom's own operand list has the length it needs: a key one property, and whatever
compares its operands with each other two of them. -/
def MeetsMinimum : Axiom → Prop
  | equivalentClasses operands | disjointClasses operands | disjointUnion _ operands =>
    2 ≤ operands.length
  | subPropertyChainOf chain _ => 2 ≤ chain.length
  | equivalentObjectProperties operands | equivalentDataProperties operands
  | disjointObjectProperties operands | disjointDataProperties operands => 2 ≤ operands.length
  | sameIndividual individuals | differentIndividuals individuals => 2 ≤ individuals.length
  | hasKey _ properties => 1 ≤ properties.length
  | _ => True

/-- The axiom and all that stands in it have the operands they need. -/
def IsWellFormed (ax : Axiom) : Prop :=
  ax.MeetsMinimum ∧ ∀ part, ax.HasPart part → part.HasEnough

/-- The axiom has a list of operands of its own that has to be long enough: the word for the
list, the length that it needs, and the length that it has. Both sorts of properties share the
words for their lists. -/
inductive HasList : Axiom → String → Nat → Nat → Prop where
  /-- The classes of an equivalence. -/
  | equivalentClasses (operands : List ClassExpression) :
    HasList (.equivalentClasses operands) "EquivalentClasses" 2 operands.length
  /-- The classes of a disjointness. -/
  | disjointClasses (operands : List ClassExpression) :
    HasList (.disjointClasses operands) "DisjointClasses" 2 operands.length
  /-- The parts of a disjoint union. -/
  | disjointUnion (iri : Iri) (operands : List ClassExpression) :
    HasList (.disjointUnion iri operands) "DisjointUnion" 2 operands.length
  /-- The links of a chain. -/
  | subPropertyChainOf (chain : List Property) (super : Property) :
    HasList (.subPropertyChainOf chain super) "ObjectPropertyChain" 2 chain.length
  /-- The object properties of an equivalence. -/
  | equivalentObjectProperties (operands : List Property) :
    HasList (.equivalentObjectProperties operands) "EquivalentProperties" 2 operands.length
  /-- The data properties of an equivalence. -/
  | equivalentDataProperties (operands : List Property) :
    HasList (.equivalentDataProperties operands) "EquivalentProperties" 2 operands.length
  /-- The object properties of a disjointness. -/
  | disjointObjectProperties (operands : List Property) :
    HasList (.disjointObjectProperties operands) "DisjointProperties" 2 operands.length
  /-- The data properties of a disjointness. -/
  | disjointDataProperties (operands : List Property) :
    HasList (.disjointDataProperties operands) "DisjointProperties" 2 operands.length
  /-- The individuals of an equality. -/
  | sameIndividual (individuals : List Individual) :
    HasList (.sameIndividual individuals) "SameIndividual" 2 individuals.length
  /-- The individuals of an inequality. -/
  | differentIndividuals (individuals : List Individual) :
    HasList (.differentIndividuals individuals) "DifferentIndividuals" 2 individuals.length
  /-- The properties of a key. -/
  | hasKey (subject : ClassExpression) (properties : List Property) :
    HasList (.hasKey subject properties) "HasKey" 1 properties.length

/-- The fault is the one to report: that of the axiom's own operand list if it is too short, and
otherwise that of the first part, from left to right and outside before inside, which lacks
operands. -/
inductive FirstFault (ax : Axiom) : Fault → Prop where
  /-- The axiom's own operand list is too short; the fault names it, with the length it needs and
  the length it has. -/
  | operands {list : OperandList} {found : Nat} (own : ax.HasList list.name list.minimum found)
      (short : ¬ax.MeetsMinimum) : FirstFault ax (.tooFewOperands list found)
  /-- A part lacks operands, and all parts before it have enough. -/
  | part {before after : List Part} {part : Part} {fault : Fault} (long : ax.MeetsMinimum)
      (order : ax.preorder = before ++ part :: after)
      (enough : ∀ earlier ∈ before, earlier.HasEnough) (own : part.ownFault? = some fault) :
      FirstFault ax fault

/-- The checker looks at the list that the axiom has, under its word and with its length. -/
theorem operandList?_eq_some_iff {ax : Axiom} {list : OperandList} {found : Nat} :
    ax.operandList? = some (list, found) ↔ ax.HasList list.name list.minimum found := by
  constructor
  · intro listed
    cases ax with
    | equivalentClasses | disjointClasses | disjointUnion | subPropertyChainOf
    | equivalentObjectProperties | equivalentDataProperties | disjointObjectProperties
    | disjointDataProperties | sameIndividual | differentIndividuals | hasKey =>
      obtain ⟨rfl, rfl⟩ := Prod.mk.inj (Option.some.inj listed)
      constructor
    | _ => cases listed
  · intro own
    have named : ∃ other, ax.operandList? = some (other, found) ∧ other.name = list.name := by
      generalize list.name = name, list.minimum = minimum at own
      cases own <;> exact ⟨_, rfl, rfl⟩
    obtain ⟨other, listed, same⟩ := named
    rw [listed, OperandList.name_injective same]

/-- The checker finds no fault in an operand list that has the length it needs. -/
theorem operandFault?_eq_none_iff {ax : Axiom} : ax.operandFault? = none ↔ ax.MeetsMinimum := by
  cases ax with
  | equivalentClasses | disjointClasses | disjointUnion | subPropertyChainOf
  | equivalentObjectProperties | equivalentDataProperties | disjointObjectProperties
  | disjointDataProperties | sameIndividual | differentIndividuals | hasKey =>
    exact tooShort_eq_none_iff
  | _ => exact iff_of_true rfl trivial

/-- The checker finds that the axiom's own operand list is too short exactly when it is. -/
theorem operandFault?_eq_some_iff {ax : Axiom} {fault : Fault} :
    ax.operandFault? = some fault ↔ ∃ list found,
      ax.HasList list.name list.minimum found ∧ ¬ax.MeetsMinimum ∧
        .tooFewOperands list found = fault := by
  simp only [← operandList?_eq_some_iff]
  rw [← operandFault?_eq_none_iff, operandFault?]
  cases ax.operandList? with
  | none => simp
  | some listed =>
    obtain ⟨list, found⟩ := listed
    by_cases short : found < list.minimum <;> simp [short]

/-- The checker finds the fault of the first part that has one of its own. -/
theorem expressionFault?_eq_findSome? (ax : Axiom) :
    ax.expressionFault? = ax.preorder.findSome? Part.ownFault? := by
  have inside : ax.expressionFault? = ax.parts.findSome? Part.fault? := by
    have alone (part : Part) : part.fault? = [part].findSome? Part.fault? :=
      List.findSome?_singleton.symm
    cases ax with
    | subClassOf sub super =>
      rw [parts, List.findSome?_cons, List.findSome?_singleton, expressionFault?, Part.fault?]
      cases sub.fault? <;> rfl
    | equivalentClasses operands | disjointClasses operands | disjointUnion _ operands =>
      exact Part.firstFault?_ofClass operands
    | objectPropertyDomain _ expression | objectPropertyRange _ expression
    | dataPropertyDomain _ expression | hasKey expression _ | classAssertion expression _ =>
      exact alone (.ofClass expression)
    | dataPropertyRange _ range | datatypeDefinition _ range => exact alone (.ofRange range)
    | _ => rfl
  rw [inside, preorder, findSome?_flatMap]
  exact findSome?_congr fun part _ => part.fault?_eq_findSome?

/-- The checker finds no fault exactly in well-formed axioms. -/
theorem fault?_eq_none_iff {ax : Axiom} : ax.fault? = none ↔ ax.IsWellFormed := by
  have parts : ax.expressionFault? = none ↔ ∀ part, ax.HasPart part → part.HasEnough := by
    rw [expressionFault?_eq_findSome?, List.findSome?_eq_none_iff]
    simp only [mem_preorder_iff, Part.ownFault?_eq_none_iff]
  rw [fault?, Option.orElse_eq_orElse, Option.orElse_eq_or, Option.or_eq_none_iff,
    operandFault?_eq_none_iff, parts]
  rfl

/-- The fault that the checker finds is the first. -/
theorem fault?_eq_some_iff {ax : Axiom} {fault : Fault} :
    ax.fault? = some fault ↔ ax.FirstFault fault := by
  have ordered : ax.fault? = some fault ↔ ax.operandFault? = some fault ∨
      ax.operandFault? = none ∧ ax.expressionFault? = some fault := by
    rw [fault?, Option.orElse_eq_orElse, Option.orElse_eq_or, Option.or_eq_some_iff]
  rw [ordered, operandFault?_eq_some_iff, operandFault?_eq_none_iff, expressionFault?_eq_findSome?,
    List.findSome?_eq_some_iff]
  simp only [Part.ownFault?_eq_none_iff]
  constructor
  · rintro (⟨list, found, own, short, rfl⟩ | ⟨long, before, part, after, order, own, enough⟩)
    · exact .operands own short
    · exact .part long order enough own
  · rintro (⟨own, short⟩ | ⟨long, order, enough, own⟩)
    · exact .inl ⟨_, _, own, short, rfl⟩
    · exact .inr ⟨long, _, _, _, order, own, enough⟩

end Axiom

namespace Ontology

/-- An extraction that checks its ontology is refused for what the checker finds. -/
theorem extractChecked_eq_error_iff {ontology : Ontology} {seed : List Entity}
    {kind : ModuleKind} {fault : Fault} :
    ontology.extractChecked seed kind = .error fault ↔ ontology.fault? = some fault := by
  rw [extractChecked]
  cases ontology.fault? <;> simp

/-- An extraction that checks its ontology gives the module if the checker finds nothing. -/
theorem extractChecked_eq_ok_iff {ontology : Ontology} {seed : List Entity}
    {kind : ModuleKind} {result : Module} :
    ontology.extractChecked seed kind = .ok result ↔
      ontology.fault? = none ∧ ontology.extract seed kind = result := by
  rw [extractChecked]
  cases ontology.fault? <;> simp

/-- The checker accepts exactly the well-formed axioms and refuses the others for their first
fault, which names the list, the length it needs and the length it has where the axiom's own list
is too short; an extraction that checks its ontology gives the module exactly when all axioms are
well formed, and is refused otherwise for the first fault of the first axiom that is not. -/
theorem extractChecked_iff (ontology : Ontology) (seed : List Entity) (kind : ModuleKind) :
    (∀ ax : Axiom, (ax.validate = .ok () ↔ ax.IsWellFormed) ∧
      ∀ fault, ax.validate = .error fault ↔ ax.FirstFault fault) ∧
    (∀ result, ontology.extractChecked seed kind = .ok result ↔
      (∀ ax ∈ ontology.axioms, ax.IsWellFormed) ∧ ontology.extract seed kind = result) ∧
    ∀ fault, ontology.extractChecked seed kind = .error fault ↔
      ∃ before ax after, ontology.axioms = before ++ ax :: after ∧ ax.FirstFault fault ∧
        ∀ earlier ∈ before, earlier.IsWellFormed := by
  refine ⟨fun ax => ⟨Axiom.validate_eq_ok_iff.trans Axiom.fault?_eq_none_iff, fun fault =>
    Axiom.validate_eq_error_iff.trans Axiom.fault?_eq_some_iff⟩, ?_, ?_⟩
  · intro result
    rw [extractChecked_eq_ok_iff, fault?, List.findSome?_eq_none_iff]
    simp only [Axiom.fault?_eq_none_iff]
  · intro fault
    rw [extractChecked_eq_error_iff, fault?, List.findSome?_eq_some_iff]
    simp only [Axiom.fault?_eq_none_iff, Axiom.fault?_eq_some_iff]

/-- Of the three parts that lack operands the intersection is met first. -/
example : (Axiom.subClassOf (.complement (.union [.intersection [.thing], .oneOf []]))
    (.oneOf [])).validate = .error (.shortClassConnective 1) := rfl

end Ontology

end OntologyModules
