import OntologyModules.Axiom

/-!
# Faults of axioms

Lists of operands have a least length: two for what compares operands with each other, one for
enumerations and keys. `Axiom.fault?` finds the first list that is too short, the axiom's own
operands before the lists inside its class expressions and data ranges, and those from left to
right with each expression before its parts. An axiom without a fault is well formed.
-/

namespace OntologyModules

/-- The axioms whose own operand list has a least length. -/
inductive OperandList where
  /-- The classes of an equivalence. -/
  | equivalentClasses
  /-- The classes of a disjointness. -/
  | disjointClasses
  /-- The parts of a disjoint union. -/
  | disjointUnion
  /-- The properties of a chain. -/
  | propertyChain
  /-- The properties of an equivalence. -/
  | equivalentProperties
  /-- The properties of a disjointness. -/
  | disjointProperties
  /-- The individuals of an equality. -/
  | sameIndividual
  /-- The individuals of an inequality. -/
  | differentIndividuals
  /-- The properties of a key. -/
  | key
deriving DecidableEq, Repr

namespace OperandList

/-- The word for the list. -/
def name : OperandList → String
  | equivalentClasses => "EquivalentClasses"
  | disjointClasses => "DisjointClasses"
  | disjointUnion => "DisjointUnion"
  | propertyChain => "ObjectPropertyChain"
  | equivalentProperties => "EquivalentProperties"
  | disjointProperties => "DisjointProperties"
  | sameIndividual => "SameIndividual"
  | differentIndividuals => "DifferentIndividuals"
  | key => "HasKey"

/-- The least length of the list. -/
def minimum : OperandList → Nat
  | key => 1
  | _ => 2

/-- Every list has a word of its own. -/
theorem name_injective {first second : OperandList} (same : first.name = second.name) :
    first = second := by
  cases first <;> cases second <;> first | rfl | exact absurd same (by decide)

end OperandList

/-- Why an axiom is not well formed. -/
inductive Fault where
  /-- The axiom's own operand list is too short. -/
  | tooFewOperands (list : OperandList) (found : Nat)
  /-- An intersection or union of classes has fewer than two operands. -/
  | shortClassConnective (found : Nat)
  /-- An enumeration of individuals is empty. -/
  | emptyEnumeration
  /-- An intersection or union of data ranges has fewer than two operands. -/
  | shortRangeConnective (found : Nat)
  /-- An enumeration of literals is empty. -/
  | emptyRangeEnumeration
deriving DecidableEq, Repr

namespace Fault

/-- The description of a fault. -/
def description : Fault → String
  | tooFewOperands list found =>
    list.name ++ " requires at least " ++ toString list.minimum ++ " operands, found " ++
      toString found
  | shortClassConnective found =>
    "n-ary class expression with " ++ toString found ++ " operands"
  | emptyEnumeration => "ObjectOneOf without individuals"
  | shortRangeConnective found => "n-ary data range with " ++ toString found ++ " operands"
  | emptyRangeEnumeration => "DataOneOf without literals"

/-- The message for an axiom with a fault. -/
def message (fault : Fault) : String := "Invalid axiom: " ++ fault.description

/-- The message for an ontology that is refused because one of its axioms has a fault. -/
def ontologyMessage (fault : Fault) : String := "Invalid ontology: " ++ fault.message

end Fault

namespace DataRange

mutual

/-- The first fault in a data range. -/
def fault? : DataRange → Option Fault
  | datatype _ | restriction _ _ => none
  | complement range => fault? range
  | intersection operands | union operands =>
    if operands.length < 2 then some (.shortRangeConnective operands.length)
    else firstFault? operands
  | oneOf members => if members.isEmpty then some .emptyRangeEnumeration else none

/-- The first fault in a list of data ranges. -/
def firstFault? : List DataRange → Option Fault
  | [] => none
  | first :: rest => fault? first <|> firstFault? rest

end

end DataRange

namespace ClassExpression

mutual

/-- The first fault in a class expression. -/
def fault? : ClassExpression → Option Fault
  | named _ | thing | nothing | objectCount .. | hasValue .. | hasSelf _ | dataCount ..
  | dataHasValue .. => none
  | complement operand => fault? operand
  | intersection operands | union operands =>
    if operands.length < 2 then some (.shortClassConnective operands.length)
    else firstFault? operands
  | oneOf members => if members.isEmpty then some .emptyEnumeration else none
  | object _ _ filler => fault? filler
  | data _ _ filler => filler.fault?

/-- The first fault in a list of class expressions. -/
def firstFault? : List ClassExpression → Option Fault
  | [] => none
  | first :: rest => fault? first <|> firstFault? rest

end

end ClassExpression

namespace Axiom

/-- The axiom's own list with a least length, and how many operands it has. -/
def operandList? : Axiom → Option (OperandList × Nat)
  | equivalentClasses operands => some (.equivalentClasses, operands.length)
  | disjointClasses operands => some (.disjointClasses, operands.length)
  | disjointUnion _ operands => some (.disjointUnion, operands.length)
  | subPropertyChainOf chain _ => some (.propertyChain, chain.length)
  | equivalentObjectProperties operands | equivalentDataProperties operands =>
    some (.equivalentProperties, operands.length)
  | disjointObjectProperties operands | disjointDataProperties operands =>
    some (.disjointProperties, operands.length)
  | sameIndividual individuals => some (.sameIndividual, individuals.length)
  | differentIndividuals individuals => some (.differentIndividuals, individuals.length)
  | hasKey _ properties => some (.key, properties.length)
  | _ => none

/-- The fault of the axiom's own operand list. -/
def operandFault? (ax : Axiom) : Option Fault :=
  match ax.operandList? with
  | some (list, found) => if found < list.minimum then some (.tooFewOperands list found) else none
  | none => none

/-- The first fault in the expressions of the axiom. -/
def expressionFault? : Axiom → Option Fault
  | subClassOf sub super => sub.fault? <|> super.fault?
  | equivalentClasses operands | disjointClasses operands | disjointUnion _ operands =>
    ClassExpression.firstFault? operands
  | objectPropertyDomain _ expression | objectPropertyRange _ expression
  | dataPropertyDomain _ expression | hasKey expression _ | classAssertion expression _ =>
    expression.fault?
  | dataPropertyRange _ range | datatypeDefinition _ range => range.fault?
  | _ => none

/-- The first fault of the axiom. -/
def fault? (ax : Axiom) : Option Fault := ax.operandFault? <|> ax.expressionFault?

/-- Accepts the axiom if it is well formed, and refuses it for its first fault otherwise. -/
def validate (ax : Axiom) : Except Fault Unit :=
  match ax.fault? with
  | some fault => .error fault
  | none => .ok ()

/-- An axiom is accepted exactly when it has no fault. -/
theorem validate_eq_ok_iff {ax : Axiom} : ax.validate = .ok () ↔ ax.fault? = none := by
  unfold validate
  split <;> simp_all

/-- An axiom is refused for its first fault. -/
theorem validate_eq_error_iff {ax : Axiom} {fault : Fault} :
    ax.validate = .error fault ↔ ax.fault? = some fault := by
  unfold validate
  split <;> simp_all

end Axiom

end OntologyModules
