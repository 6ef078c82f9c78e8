import OntologyModules.DataRange
import OntologyModules.Property

/-!
# Class expressions

A class expression describes a set of individuals. Restrictions are grouped by what they
quantify over: `object` restrictions count related individuals of a class, `data` restrictions
count related values of a range, and the unqualified forms `objectCount` and `dataCount` count
all related individuals or values. `ClassExpression.same` decides equality
(`ClassExpression.same_iff`).
-/

namespace OntologyModules

/-- A limit on how many things there are. -/
inductive Count where
  /-- That many or more. -/
  | atLeast (number : UInt32)
  /-- That many or fewer. -/
  | atMost (number : UInt32)
  /-- Exactly that many. -/
  | exactly (number : UInt32)
deriving DecidableEq, Repr

/-- What a restriction asks of the related things that are in its filler. -/
inductive Quantifier where
  /-- There is one. -/
  | existential
  /-- There is no related thing outside the filler. -/
  | universal
  /-- Their number is limited. -/
  | count (count : Count)
deriving DecidableEq, Repr

/-- A description of a set of individuals. -/
inductive ClassExpression where
  /-- A class by its name. -/
  | named (iri : Iri)
  /-- All individuals. -/
  | thing
  /-- No individual. -/
  | nothing
  /-- All individuals outside a class. -/
  | complement (operand : ClassExpression)
  /-- The individuals that are in every operand. -/
  | intersection (operands : List ClassExpression)
  /-- The individuals that are in some operand. -/
  | union (operands : List ClassExpression)
  /-- The listed individuals. -/
  | oneOf (members : List Individual)
  /-- The individuals whose related individuals in the filler are as the quantifier asks. -/
  | object (quantifier : Quantifier) (property : Property) (filler : ClassExpression)
  /-- The individuals with so many related individuals. -/
  | objectCount (count : Count) (property : Property)
  /-- The individuals related to the given one. -/
  | hasValue (property : Property) (value : Individual)
  /-- The individuals related to themselves. -/
  | hasSelf (property : Property)
  /-- The individuals whose related values in the filler are as the quantifier asks. -/
  | data (quantifier : Quantifier) (property : Property) (filler : DataRange)
  /-- The individuals with so many related values. -/
  | dataCount (count : Count) (property : Property)
  /-- The individuals related to the given value. -/
  | dataHasValue (property : Property) (value : Literal)
deriving Repr

namespace ClassExpression

/-- The individuals with a related individual in a class. -/
def someValuesFrom (property : Property) (filler : ClassExpression) : ClassExpression :=
  object .existential property filler

/-- The individuals whose related individuals are all in a class. -/
def allValuesFrom (property : Property) (filler : ClassExpression) : ClassExpression :=
  object .universal property filler

mutual

/-- Whether two class expressions are written alike. -/
def same : ClassExpression → ClassExpression → Bool
  | named first, named second => first == second
  | thing, thing => true
  | nothing, nothing => true
  | complement first, complement second => same first second
  | intersection first, intersection second => sameAll first second
  | union first, union second => sameAll first second
  | oneOf first, oneOf second => first == second
  | object quantifier property filler, object quantifier' property' filler' =>
    decide (quantifier = quantifier') && decide (property = property') && same filler filler'
  | objectCount count property, objectCount count' property' =>
    decide (count = count') && decide (property = property')
  | hasValue property value, hasValue property' value' =>
    decide (property = property') && value == value'
  | hasSelf property, hasSelf property' => decide (property = property')
  | data quantifier property filler, data quantifier' property' filler' =>
    decide (quantifier = quantifier') && decide (property = property') && decide (filler = filler')
  | dataCount count property, dataCount count' property' =>
    decide (count = count') && decide (property = property')
  | dataHasValue property value, dataHasValue property' value' =>
    decide (property = property') && decide (value = value')
  | _, _ => false

/-- Whether two lists of class expressions are written alike. -/
def sameAll : List ClassExpression → List ClassExpression → Bool
  | [], [] => true
  | first :: rest, first' :: rest' => same first first' && sameAll rest rest'
  | _, _ => false

end

mutual

/-- Class expressions written alike are equal. -/
theorem same_iff (first second : ClassExpression) : same first second = true ↔ first = second := by
  cases first with
  | named => cases second <;> simp [same]
  | thing => cases second <;> simp [same]
  | nothing => cases second <;> simp [same]
  | complement operand => cases second <;> simp [same, same_iff operand]
  | intersection operands => cases second <;> simp [same, sameAll_iff operands]
  | union operands => cases second <;> simp [same, sameAll_iff operands]
  | oneOf => cases second <;> simp [same]
  | object _ _ filler => cases second <;> simp [same, same_iff filler, and_assoc]
  | objectCount => cases second <;> simp [same]
  | hasValue => cases second <;> simp [same]
  | hasSelf => cases second <;> simp [same]
  | data => cases second <;> simp [same, and_assoc]
  | dataCount => cases second <;> simp [same]
  | dataHasValue => cases second <;> simp [same]

/-- Lists of class expressions written alike are equal. -/
theorem sameAll_iff (first second : List ClassExpression) :
    sameAll first second = true ↔ first = second := by
  cases first with
  | nil => cases second <;> simp [sameAll]
  | cons head tail => cases second <;> simp [sameAll, same_iff head, sameAll_iff tail]

end

instance : DecidableEq ClassExpression := fun first second =>
  decidable_of_iff _ (same_iff first second)

end ClassExpression

end OntologyModules
