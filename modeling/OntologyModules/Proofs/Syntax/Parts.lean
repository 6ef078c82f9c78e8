import Mathlib.Logic.Relation
import OntologyModules.Axiom
import OntologyModules.Proofs.Syntax.Induction

/-!
# Parts of axioms

The class expressions and the data ranges that an axiom is made of are its parts, at whatever
depth they stand: as operands of connectives, under complements and as fillers of restrictions. The
parts directly inside a part are its children, in the order in which they are written
(`Part.children`). Listing a part before the listings of its children gives the order in which a
reader meets the parts (`Part.preorder_eq`), and this listing has exactly the parts that are reached
from child to child (`Part.mem_preorder_iff`).
-/

namespace OntologyModules

/-- A class expression or a data range. -/
inductive Part where
  /-- A class expression. -/
  | ofClass (expression : ClassExpression)
  /-- A data range. -/
  | ofRange (range : DataRange)
deriving DecidableEq, Repr

namespace DataRange

/-- The data ranges directly inside a data range, in order. -/
def children : DataRange → List DataRange
  | datatype _ | oneOf _ | restriction _ _ => []
  | complement range => [range]
  | intersection operands | union operands => operands

mutual

/-- A data range before the data ranges inside it. -/
def preorder : DataRange → List DataRange
  | datatype iri => [datatype iri]
  | complement range => complement range :: preorder range
  | intersection operands => intersection operands :: preorderAll operands
  | union operands => union operands :: preorderAll operands
  | oneOf members => [oneOf members]
  | restriction iri facets => [restriction iri facets]

/-- The data ranges of a list, each before the data ranges inside it. -/
def preorderAll : List DataRange → List DataRange
  | [] => []
  | first :: rest => preorder first ++ preorderAll rest

end

/-- The data ranges of a list are listed one after the other. -/
theorem preorderAll_eq_flatMap (ranges : List DataRange) :
    preorderAll ranges = ranges.flatMap preorder := by
  induction ranges with
  | nil => rfl
  | cons first rest ih => rw [preorderAll, ih, List.flatMap_cons]

end DataRange

namespace ClassExpression

mutual

/-- A class expression before the class expressions and the data ranges inside it. -/
def preorder : ClassExpression → List Part
  | named iri => [.ofClass (named iri)]
  | thing => [.ofClass thing]
  | nothing => [.ofClass nothing]
  | complement operand => .ofClass (complement operand) :: preorder operand
  | intersection operands => .ofClass (intersection operands) :: preorderAll operands
  | union operands => .ofClass (union operands) :: preorderAll operands
  | oneOf members => [.ofClass (oneOf members)]
  | object quantifier property filler =>
    .ofClass (object quantifier property filler) :: preorder filler
  | objectCount count property => [.ofClass (objectCount count property)]
  | hasValue property value => [.ofClass (hasValue property value)]
  | hasSelf property => [.ofClass (hasSelf property)]
  | data quantifier property filler =>
    .ofClass (data quantifier property filler) :: filler.preorder.map .ofRange
  | dataCount count property => [.ofClass (dataCount count property)]
  | dataHasValue property value => [.ofClass (dataHasValue property value)]

/-- The class expressions of a list, each before the parts inside it. -/
def preorderAll : List ClassExpression → List Part
  | [] => []
  | first :: rest => preorder first ++ preorderAll rest

end

/-- The class expressions of a list are listed one after the other. -/
theorem preorderAll_eq_flatMap (classes : List ClassExpression) :
    preorderAll classes = classes.flatMap preorder := by
  induction classes with
  | nil => rfl
  | cons first rest ih => rw [preorderAll, ih, List.flatMap_cons]

end ClassExpression

namespace Part

/-- The parts directly inside a part, in order. -/
def children : Part → List Part
  | ofClass (.named _) | ofClass .thing | ofClass .nothing | ofClass (.oneOf _)
  | ofClass (.objectCount _ _) | ofClass (.hasValue _ _) | ofClass (.hasSelf _)
  | ofClass (.dataCount _ _) | ofClass (.dataHasValue _ _) => []
  | ofClass (.complement operand) => [ofClass operand]
  | ofClass (.intersection operands) | ofClass (.union operands) => operands.map ofClass
  | ofClass (.object _ _ filler) => [ofClass filler]
  | ofClass (.data _ _ filler) => [ofRange filler]
  | ofRange range => range.children.map ofRange

/-- Induction over parts, with the hypothesis at every child. -/
@[elab_as_elim, induction_eliminator]
theorem induction {motive : Part → Prop}
    (step : ∀ part, (∀ child ∈ part.children, motive child) → motive part) :
    ∀ part, motive part := by
  have leaf {part : Part} (none : part.children = []) : motive part := by
    apply step
    rw [none]
    exact fun child mem => absurd mem List.not_mem_nil
  have single {part child : Part} (only : part.children = [child]) (ih : motive child) :
      motive part := by
    apply step
    rw [only]
    exact List.forall_mem_singleton.2 ih
  -- Class expressions contain data ranges and not the other way round, so these come first.
  have ranges (range : DataRange) : motive (ofRange range) := by
    induction range with
    | datatype | oneOf | restriction => exact leaf rfl
    | complement range ih => exact single rfl ih
    | intersection operands ih => exact step _ (List.forall_mem_map.2 ih)
    | union operands ih => exact step _ (List.forall_mem_map.2 ih)
  have classes (expression : ClassExpression) : motive (ofClass expression) := by
    induction expression with
    | named | thing | nothing | oneOf | objectCount | hasValue | hasSelf | dataCount
    | dataHasValue => exact leaf rfl
    | complement operand ih => exact single rfl ih
    | intersection operands ih => exact step _ (List.forall_mem_map.2 ih)
    | union operands ih => exact step _ (List.forall_mem_map.2 ih)
    | object quantifier property filler ih => exact single rfl ih
    | data quantifier property filler => exact single rfl (ranges filler)
  intro part
  cases part with
  | ofClass expression => exact classes expression
  | ofRange range => exact ranges range

/-- The part stands in the whole, at any depth; every part stands in itself. -/
def StandsIn (part whole : Part) : Prop :=
  Relation.ReflTransGen (fun outer inner => inner ∈ outer.children) whole part

/-- What stands in a part is the part itself or stands in a child. -/
theorem standsIn_iff {part whole : Part} :
    part.StandsIn whole ↔ part = whole ∨ ∃ child ∈ whole.children, part.StandsIn child := by
  rw [StandsIn, Relation.ReflTransGen.cases_head_iff]
  exact or_congr_left eq_comm

/-- A part before the parts inside it. -/
def preorder : Part → List Part
  | ofClass expression => expression.preorder
  | ofRange range => range.preorder.map ofRange

/-- A part is listed before its children, and these are listed from left to right. -/
theorem preorder_eq (part : Part) : part.preorder = part :: part.children.flatMap preorder := by
  have leaf {part : Part} (none : part.children = []) (alone : part.preorder = [part]) :
      part.preorder = part :: part.children.flatMap preorder := by
    rw [none, alone]
    rfl
  have single {part child : Part} (only : part.children = [child])
      (before : part.preorder = part :: child.preorder) :
      part.preorder = part :: part.children.flatMap preorder := by
    rw [only, before, List.flatMap_singleton]
  have classes (operands : List ClassExpression) :
      ClassExpression.preorderAll operands = (operands.map ofClass).flatMap preorder := by
    rw [ClassExpression.preorderAll_eq_flatMap, List.flatMap_map]
    rfl
  have ranges (operands : List DataRange) :
      (DataRange.preorderAll operands).map ofRange = (operands.map ofRange).flatMap preorder := by
    rw [DataRange.preorderAll_eq_flatMap, List.flatMap_map, List.map_flatMap]
    rfl
  cases part with
  | ofClass expression =>
    cases expression with
    | named | thing | nothing | oneOf | objectCount | hasValue | hasSelf | dataCount
    | dataHasValue => exact leaf rfl rfl
    | complement | object | data => exact single rfl rfl
    | intersection operands => exact congrArg (List.cons _) (classes operands)
    | union operands => exact congrArg (List.cons _) (classes operands)
  | ofRange range =>
    cases range with
    | datatype | oneOf | restriction => exact leaf rfl rfl
    | complement => exact single rfl rfl
    | intersection operands => exact congrArg (List.cons _) (ranges operands)
    | union operands => exact congrArg (List.cons _) (ranges operands)

/-- The parts listed for a part are those that stand in it. -/
theorem mem_preorder_iff {part whole : Part} : part ∈ whole.preorder ↔ part.StandsIn whole := by
  induction whole with
  | step whole ih =>
    rw [preorder_eq, List.mem_cons, List.mem_flatMap, standsIn_iff]
    refine or_congr_right ?_
    constructor
    · rintro ⟨child, inside, mem⟩
      exact ⟨child, inside, (ih child inside).1 mem⟩
    · rintro ⟨child, inside, stands⟩
      exact ⟨child, inside, (ih child inside).2 stands⟩

end Part

namespace Axiom

/-- The class expressions and the data ranges directly inside an axiom, in order. -/
def parts : Axiom → List Part
  | declaration _ | subObjectPropertyOf _ _ | subPropertyChainOf _ _
  | equivalentObjectProperties _ | disjointObjectProperties _ | inverseObjectProperties _ _
  | objectProperty _ _ | subDataPropertyOf _ _ | equivalentDataProperties _
  | disjointDataProperties _ | functionalDataProperty _ | sameIndividual _
  | differentIndividuals _ | objectPropertyAssertion _ _ _
  | negativeObjectPropertyAssertion _ _ _ | dataPropertyAssertion _ _ _
  | negativeDataPropertyAssertion _ _ _ => []
  | subClassOf sub super => [.ofClass sub, .ofClass super]
  | equivalentClasses operands | disjointClasses operands | disjointUnion _ operands =>
    operands.map .ofClass
  | objectPropertyDomain _ expression | objectPropertyRange _ expression
  | dataPropertyDomain _ expression | hasKey expression _ | classAssertion expression _ =>
    [.ofClass expression]
  | dataPropertyRange _ range | datatypeDefinition _ range => [.ofRange range]

/-- The part stands somewhere in the axiom, at any depth. -/
def HasPart (ax : Axiom) (part : Part) : Prop := ∃ whole ∈ ax.parts, part.StandsIn whole

/-- The parts of an axiom from left to right, each before the parts inside it. -/
def preorder (ax : Axiom) : List Part := ax.parts.flatMap Part.preorder

/-- The parts listed for an axiom are those that stand in it. -/
theorem mem_preorder_iff {ax : Axiom} {part : Part} : part ∈ ax.preorder ↔ ax.HasPart part := by
  simp only [preorder, HasPart, List.mem_flatMap, Part.mem_preorder_iff]

end Axiom

end OntologyModules
