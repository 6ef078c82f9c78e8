import OntologyModules.Cardinality.Saturating

/-!
# Bounds on the size of a set

An upper bound says that a set has at most so many elements, or nothing; a lower bound says
that it has at least so many, where zero says nothing. The least upper bound says the most, and
the greatest lower bound does. Sums saturate: a saturated upper bound is the greatest count and
not a smaller one.
-/

namespace OntologyModules

/-- How many elements a set has at most. -/
inductive UpperBound where
  /-- That many or fewer. -/
  | atMost (number : UInt32)
  /-- No limit is known. -/
  | unbounded
deriving DecidableEq, Repr

namespace UpperBound

instance : Inhabited UpperBound := ⟨unbounded⟩

/-- The bound of a set that is empty if the condition holds. -/
def lift (condition : Bool) : UpperBound := if condition then atMost 0 else unbounded

/-- Whether a limit is known. -/
def isBounded : UpperBound → Bool
  | atMost _ => true
  | unbounded => false

/-- Whether the limit is the given count or less. -/
def isAtMost (bound : UpperBound) (number : UInt32) : Bool :=
  match bound with
  | atMost limit => decide (limit ≤ number)
  | unbounded => false

/-- Whether the limit is less than the given count. -/
def isLessThan (bound : UpperBound) (number : UInt32) : Bool :=
  match bound with
  | atMost limit => decide (limit < number)
  | unbounded => false

/-- The bound of a union of two sets. -/
def sum : UpperBound → UpperBound → UpperBound
  | atMost first, atMost second => atMost (Saturating.add first second)
  | _, _ => unbounded

/-- The order of bounds, in which no limit comes last. -/
def compare : UpperBound → UpperBound → Ordering
  | atMost first, atMost second => Ord.compare first second
  | atMost _, unbounded => .lt
  | unbounded, atMost _ => .gt
  | unbounded, unbounded => .eq

instance : Ord UpperBound := ⟨compare⟩

/-- A bound is below every bound that says no more. -/
instance : LE UpperBound where
  le
  | _, unbounded => True
  | atMost first, atMost second => first ≤ second
  | unbounded, atMost _ => False

instance : (first second : UpperBound) → Decidable (first ≤ second)
  | atMost _, unbounded => isTrue trivial
  | unbounded, unbounded => isTrue trivial
  | atMost first, atMost second => inferInstanceAs (Decidable (first ≤ second))
  | unbounded, atMost _ => isFalse id

instance : Min UpperBound := ⟨fun first second => if first ≤ second then first else second⟩

instance : Max UpperBound := ⟨fun first second => if first ≤ second then second else first⟩

/-- The bound of a union of sets. -/
def sumAll (bounds : List UpperBound) : UpperBound := bounds.foldl sum (atMost 0)

/-- The bound of an intersection of sets. -/
def leastOf (bounds : List UpperBound) : UpperBound := bounds.foldl min unbounded

/-- The bound as text. -/
def display : UpperBound → String
  | atMost number => "<= " ++ toString number.toNat
  | unbounded => "unbounded"

end UpperBound

/-- How many elements a set has at least. -/
structure LowerBound where
  /-- That many or more. -/
  number : UInt32
deriving DecidableEq, Repr

namespace LowerBound

/-- Nothing is known. -/
def zero : LowerBound := ⟨0⟩

instance : Inhabited LowerBound := ⟨zero⟩

/-- The bound of a set that has an element if the condition holds. -/
def lift (condition : Bool) : LowerBound := if condition then ⟨1⟩ else zero

/-- Whether the bound is the given count or more. -/
def isAtLeast (bound : LowerBound) (number : UInt32) : Bool := decide (number ≤ bound.number)

/-- The bound that is left when some elements are taken away. -/
def minus (bound : LowerBound) (number : UInt32) : LowerBound :=
  ⟨Saturating.sub bound.number number⟩

instance : Ord LowerBound := ⟨fun first second => Ord.compare first.number second.number⟩

/-- A bound is below every bound that says no less. -/
instance : LE LowerBound := ⟨fun first second => first.number ≤ second.number⟩

instance (first second : LowerBound) : Decidable (first ≤ second) :=
  inferInstanceAs (Decidable (first.number ≤ second.number))

instance : Max LowerBound := ⟨fun first second => if first ≤ second then second else first⟩

/-- The bound of a union of sets. -/
def greatestOf (bounds : List LowerBound) : LowerBound := bounds.foldl max zero

/-- The bound as text. -/
def display (bound : LowerBound) : String := ">= " ++ toString bound.number.toNat

end LowerBound

end OntologyModules
