import OntologyModules.Cardinality.Intersection

/-!
# What is known of the size of a set and of its complement

Four bounds belong together: from above and from below, of a set and of its complement.
Complementing a set exchanges them in pairs. Intersections and unions have a rule for each of the
four: the least or the sum of the limits from above, the greatest of the limits from below, and
for what an intersection has in common, or for what is outside a union, the rule of
`LowerBound.ofIntersection`.
-/

namespace OntologyModules

/-- Bounds on the sizes of a set and of its complement. -/
structure Bounds where
  /-- How many elements the set has at most. -/
  upper : UpperBound
  /-- How many elements the complement has at most. -/
  upperComplement : UpperBound
  /-- How many elements the set has at least. -/
  lower : LowerBound
  /-- How many elements the complement has at least. -/
  lowerComplement : LowerBound
deriving DecidableEq, Repr

namespace Bounds

/-- The bounds of a non-empty domain. -/
def full : Bounds := ⟨.unbounded, .atMost 0, ⟨1⟩, .zero⟩

/-- The bounds of the empty set in a non-empty domain. -/
def empty : Bounds := ⟨.atMost 0, .unbounded, .zero, ⟨1⟩⟩

/-- The bounds of a set of which nothing is known. -/
def unknown : Bounds := ⟨.unbounded, .unbounded, .zero, .zero⟩

/-- The bounds of a set from the upper bounds of it and its complement: in a non-empty domain
one of them has an element if the other is empty. -/
def ofUpper (upper upperComplement : UpperBound) : Bounds where
  upper := upper
  upperComplement := upperComplement
  lower := .lift (upperComplement = .atMost 0)
  lowerComplement := .lift (upper = .atMost 0)

/-- The bounds of an enumeration with so many different members, which may denote the same
element. -/
def ofMembers (distinct : UInt32) : Bounds :=
  ⟨.atMost distinct, .unbounded, .lift (0 < distinct), .zero⟩

/-- The bounds of the complement. -/
def complement (bounds : Bounds) : Bounds :=
  ⟨bounds.upperComplement, bounds.upper, bounds.lowerComplement, bounds.lower⟩

/-- The bounds of an intersection. -/
def intersection (operands : List Bounds) : Bounds where
  upper := .leastOf (operands.map (·.upper))
  upperComplement := .sumAll (operands.map (·.upperComplement))
  lower := .ofIntersection (operands.map fun operand => (operand.lower, operand.upperComplement))
  lowerComplement := .greatestOf (operands.map (·.lowerComplement))

/-- The bounds of a union. -/
def union (operands : List Bounds) : Bounds where
  upper := .sumAll (operands.map (·.upper))
  upperComplement := .leastOf (operands.map (·.upperComplement))
  lower := .greatestOf (operands.map (·.lower))
  lowerComplement :=
    .ofIntersection (operands.map fun operand => (operand.lowerComplement, operand.upper))

/-- The complement of the complement is the set. -/
theorem complement_complement (bounds : Bounds) : bounds.complement.complement = bounds := rfl

end Bounds

end OntologyModules
