import OntologyModules.Cardinality.Bound

/-!
# The size of an intersection

An intersection loses from one operand at most what lies outside the others. With a lower bound
of each operand and an upper bound of its complement, operand `i` leaves at least its own lower
bound less the sum of the other operands' complement bounds. One pass over the operands finds
the operand that leaves the most: the complement bounds are summed up, and the operand with the
greatest sum of both its bounds is kept. An operand whose complement is unbounded must itself be
the one to subtract from, so two such operands leave nothing.
-/

namespace OntologyModules

/-- What a pass over the operands of an intersection remembers. -/
structure IntersectionTally where
  /-- The lower bound of the operand whose complement is unbounded, if there is one. -/
  unbounded : Option LowerBound
  /-- The sum of the bounded complements. -/
  total : UInt32
  /-- The operand with the greatest sum of its lower bound and its complement's bound. -/
  best : Option (LowerBound × UInt32)
deriving DecidableEq, Repr

namespace IntersectionTally

/-- Nothing has been seen. -/
def start : IntersectionTally := ⟨none, 0, none⟩

/-- The sum of an operand's lower bound and its complement's bound. -/
def score (operand : LowerBound × UInt32) : UInt32 :=
  Saturating.add operand.1.number operand.2

/-- The better of the operand kept so far and a new one; of two alike the earlier is kept. -/
def better (best : Option (LowerBound × UInt32)) (operand : LowerBound × UInt32) :
    LowerBound × UInt32 :=
  match best with
  | none => operand
  | some kept => if score kept < score operand then operand else kept

/-- Takes one more operand into account; none if a second complement is unbounded. -/
def add (tally : IntersectionTally) (operand : LowerBound × UpperBound) :
    Option IntersectionTally :=
  match operand.2 with
  | .unbounded =>
    if tally.unbounded.isSome then none else some { tally with unbounded := some operand.1 }
  | .atMost limit => some { tally with
      total := Saturating.add tally.total limit
      best := some (better tally.best (operand.1, limit)) }

/-- The bound that the remembered operands leave. -/
def bound (tally : IntersectionTally) : LowerBound :=
  match tally.unbounded, tally.best with
  | some lower, _ => lower.minus tally.total
  | none, some (lower, limit) => lower.minus (tally.total - limit)
  | none, none => .zero

end IntersectionTally

/-- A lower bound of an intersection, from a lower bound of each operand and an upper bound of
its complement. -/
def LowerBound.ofIntersection (operands : List (LowerBound × UpperBound)) : LowerBound :=
  match operands.foldlM IntersectionTally.add IntersectionTally.start with
  | some tally => tally.bound
  | none => .zero

end OntologyModules
