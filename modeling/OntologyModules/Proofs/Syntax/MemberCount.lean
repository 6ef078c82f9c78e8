import Mathlib
import OntologyModules.Axiom

/-!
# Members listed by enumerations

How many members the enumerations of an expression list in total, each as often as it is
written. Counts of elements are 32-bit words; below `Saturating.greatest` listed members no sum
of such counts saturates, and the theory of bounds is about expressions of that size.
-/

namespace OntologyModules

namespace DataRange

mutual

/-- The number of literals listed by the enumerations of a data range. -/
def memberCount : DataRange → Nat
  | datatype _ | restriction _ _ => 0
  | complement range => memberCount range
  | intersection operands => memberCountAll operands
  | union operands => memberCountAll operands
  | oneOf members => members.length

/-- The number of literals listed by the enumerations of a list of data ranges. -/
def memberCountAll : List DataRange → Nat
  | [] => 0
  | first :: rest => memberCount first + memberCountAll rest

end

/-- A list of data ranges lists what its members list. -/
theorem memberCountAll_eq_sum (ranges : List DataRange) :
    memberCountAll ranges = (ranges.map memberCount).sum := by
  induction ranges with
  | nil => rfl
  | cons first rest ih => rw [memberCountAll, ih, List.map_cons, List.sum_cons]

/-- A data range lists no more than a list that it belongs to. -/
theorem memberCount_le_of_mem {range : DataRange} {ranges : List DataRange}
    (mem : range ∈ ranges) : range.memberCount ≤ memberCountAll ranges := by
  induction ranges with
  | nil => exact absurd mem List.not_mem_nil
  | cons first rest ih =>
    rw [memberCountAll]
    rcases List.mem_cons.1 mem with rfl | later
    · omega
    · have bound := ih later
      omega

end DataRange

namespace ClassExpression

mutual

/-- The number of individuals and literals listed by the enumerations of a class expression. -/
def memberCount : ClassExpression → Nat
  | named _ | thing | nothing | objectCount _ _ | hasValue _ _ | hasSelf _ | dataCount _ _
  | dataHasValue _ _ => 0
  | complement operand => memberCount operand
  | intersection operands => memberCountAll operands
  | union operands => memberCountAll operands
  | oneOf members => members.length
  | object _ _ filler => memberCount filler
  | data _ _ filler => filler.memberCount

/-- The number of members listed by the enumerations of a list of class expressions. -/
def memberCountAll : List ClassExpression → Nat
  | [] => 0
  | first :: rest => memberCount first + memberCountAll rest

end

/-- A list of class expressions lists what its members list. -/
theorem memberCountAll_eq_sum (classes : List ClassExpression) :
    memberCountAll classes = (classes.map memberCount).sum := by
  induction classes with
  | nil => rfl
  | cons first rest ih => rw [memberCountAll, ih, List.map_cons, List.sum_cons]

/-- A class expression lists no more than a list that it belongs to. -/
theorem memberCount_le_of_mem {expression : ClassExpression} {classes : List ClassExpression}
    (mem : expression ∈ classes) : expression.memberCount ≤ memberCountAll classes := by
  induction classes with
  | nil => exact absurd mem List.not_mem_nil
  | cons first rest ih =>
    rw [memberCountAll]
    rcases List.mem_cons.1 mem with rfl | later
    · omega
    · have bound := ih later
      omega

end ClassExpression

namespace Axiom

/-- The number of members listed by the enumerations of an axiom. -/
def memberCount : Axiom → Nat
  | subClassOf sub super => sub.memberCount + super.memberCount
  | equivalentClasses operands | disjointClasses operands | disjointUnion _ operands =>
    ClassExpression.memberCountAll operands
  | objectPropertyDomain _ expression | objectPropertyRange _ expression
  | dataPropertyDomain _ expression | hasKey expression _ | classAssertion expression _ =>
    expression.memberCount
  | dataPropertyRange _ range | datatypeDefinition _ range => range.memberCount
  | declaration _ | subObjectPropertyOf _ _ | subPropertyChainOf _ _
  | equivalentObjectProperties _ | disjointObjectProperties _ | inverseObjectProperties _ _
  | objectProperty _ _ | subDataPropertyOf _ _ | equivalentDataProperties _
  | disjointDataProperties _ | functionalDataProperty _ | sameIndividual _
  | differentIndividuals _ | objectPropertyAssertion _ _ _
  | negativeObjectPropertyAssertion _ _ _ | dataPropertyAssertion _ _ _
  | negativeDataPropertyAssertion _ _ _ => 0

end Axiom

end OntologyModules
