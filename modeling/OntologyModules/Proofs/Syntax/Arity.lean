import OntologyModules.Axiom.Fault
import OntologyModules.Proofs.Syntax.Induction

/-!
# Class expressions with enough operands

An intersection or union of fewer than two classes, and an enumeration of no individual, can be
written and are faults. A class expression has enough operands when it has no such part; the data
ranges in it may be as they like. Every class expression without a fault has enough operands
(`ClassExpression.hasEnoughOperands_of_fault?_eq_none`).
-/

namespace OntologyModules.ClassExpression

mutual

/-- Whether every intersection and union of classes has at least two operands, and every
enumeration of individuals a member. -/
def hasEnoughOperands : ClassExpression → Bool
  | named _ | thing | nothing | objectCount _ _ | hasValue _ _ | hasSelf _ | data _ _ _
  | dataCount _ _ | dataHasValue _ _ => true
  | complement operand => hasEnoughOperands operand
  | intersection operands => decide (2 ≤ operands.length) && allHaveEnoughOperands operands
  | union operands => decide (2 ≤ operands.length) && allHaveEnoughOperands operands
  | oneOf members => !members.isEmpty
  | object _ _ filler => hasEnoughOperands filler

/-- Whether every listed class expression has enough operands. -/
def allHaveEnoughOperands : List ClassExpression → Bool
  | [] => true
  | first :: rest => hasEnoughOperands first && allHaveEnoughOperands rest

end

/-- A list has enough operands everywhere when its members do. -/
theorem allHaveEnoughOperands_iff {classes : List ClassExpression} :
    allHaveEnoughOperands classes = true ↔
      ∀ expression ∈ classes, expression.hasEnoughOperands = true := by
  induction classes with
  | nil => simp [allHaveEnoughOperands]
  | cons first rest ih => simp [allHaveEnoughOperands, ih]

/-- A list has no fault when none of its members has. -/
theorem firstFault?_eq_none_iff {classes : List ClassExpression} :
    firstFault? classes = none ↔ ∀ expression ∈ classes, expression.fault? = none := by
  induction classes with
  | nil => simp [firstFault?]
  | cons first rest ih => simp [firstFault?, ih]

/-- The operands of a connective are enough when there are two of them, each with enough. -/
theorem enough_operands_iff {operands : List ClassExpression} :
    (decide (2 ≤ operands.length) && allHaveEnoughOperands operands) = true ↔
      2 ≤ operands.length ∧ ∀ operand ∈ operands, operand.hasEnoughOperands = true := by
  rw [Bool.and_eq_true, decide_eq_true_eq, allHaveEnoughOperands_iff]

/-- A class expression without a fault has enough operands. -/
theorem hasEnoughOperands_of_fault?_eq_none {expression : ClassExpression}
    (sound : expression.fault? = none) : expression.hasEnoughOperands = true := by
  have connective {operands : List ClassExpression}
      (ih : ∀ operand ∈ operands, operand.fault? = none → operand.hasEnoughOperands = true)
      (sound : (if operands.length < 2 then some (Fault.shortClassConnective operands.length)
        else firstFault? operands) = none) :
      2 ≤ operands.length ∧ ∀ operand ∈ operands, operand.hasEnoughOperands = true := by
    split at sound
    · exact absurd sound (Option.some_ne_none _)
    next long =>
      refine ⟨Nat.not_lt.1 long, fun operand mem => ih operand mem ?_⟩
      exact firstFault?_eq_none_iff.1 sound operand mem
  induction expression with
  | named | thing | nothing | objectCount | hasValue | hasSelf | data | dataCount
  | dataHasValue => rfl
  | complement operand ih => exact ih sound
  | intersection operands ih => exact enough_operands_iff.2 (connective ih sound)
  | union operands ih => exact enough_operands_iff.2 (connective ih sound)
  | oneOf members =>
    rw [fault?] at sound
    rw [hasEnoughOperands]
    cases empty : members.isEmpty with
    | true => simp [empty] at sound
    | false => rfl
  | object quantifier property filler ih => exact ih sound

end OntologyModules.ClassExpression
