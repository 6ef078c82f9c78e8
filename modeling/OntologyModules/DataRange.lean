import OntologyModules.Literal

/-!
# Data ranges

A data range describes a set of literal values. Ranges nest, and two ranges are compared by
`DataRange.same`, which decides equality (`DataRange.same_iff`).
-/

namespace OntologyModules

/-- A description of a set of literal values. -/
inductive DataRange where
  /-- All values of a datatype. -/
  | datatype (iri : Iri)
  /-- All values outside a range. -/
  | complement (range : DataRange)
  /-- The values that are in every operand. -/
  | intersection (operands : List DataRange)
  /-- The values that are in some operand. -/
  | union (operands : List DataRange)
  /-- The values of the listed constants. -/
  | oneOf (members : List Literal)
  /-- The values of a datatype that meet every facet. -/
  | restriction (datatype : Iri) (facets : List Facet)
deriving Repr

namespace DataRange

/-- The range of all literal values. -/
def literal : DataRange := datatype Vocabulary.literal

mutual

/-- Whether two ranges are written alike. -/
def same : DataRange → DataRange → Bool
  | datatype first, datatype second => first == second
  | complement first, complement second => same first second
  | intersection first, intersection second => sameAll first second
  | union first, union second => sameAll first second
  | oneOf first, oneOf second => first == second
  | restriction first facets, restriction second facets' => first == second && facets == facets'
  | _, _ => false

/-- Whether two lists of ranges are written alike. -/
def sameAll : List DataRange → List DataRange → Bool
  | [], [] => true
  | first :: rest, first' :: rest' => same first first' && sameAll rest rest'
  | _, _ => false

end

mutual

/-- Ranges written alike are equal. -/
theorem same_iff (first second : DataRange) : same first second = true ↔ first = second := by
  cases first with
  | datatype => cases second <;> simp [same]
  | complement inner => cases second <;> simp [same, same_iff inner]
  | intersection operands => cases second <;> simp [same, sameAll_iff operands]
  | union operands => cases second <;> simp [same, sameAll_iff operands]
  | oneOf => cases second <;> simp [same]
  | restriction => cases second <;> simp [same]

/-- Lists of ranges written alike are equal. -/
theorem sameAll_iff (first second : List DataRange) :
    sameAll first second = true ↔ first = second := by
  cases first with
  | nil => cases second <;> simp [sameAll]
  | cons head tail => cases second <;> simp [sameAll, same_iff head, sameAll_iff tail]

end

instance : DecidableEq DataRange := fun first second =>
  decidable_of_iff _ (same_iff first second)

end DataRange

end OntologyModules
