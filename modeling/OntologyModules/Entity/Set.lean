import OntologyModules.Entity
import OntologyModules.SortedSet

/-!
# Finite sets of names and of entities

Names are ordered by their code points, entities by their kind and then by their name. Either
order is strict and total, so sets of names and sets of entities are kept as sorted listings.
-/

namespace OntologyModules

instance : StrictTotalOrder Iri where
  lt_irrefl := String.lt_irrefl
  lt_trans := String.lt_trans
  lt_or_eq_or_gt first second := by
    by_cases before : first < second
    · exact .inl before
    · by_cases after : second < first
      · exact .inr (.inr after)
      · exact .inr (.inl (String.le_antisymm (String.not_lt.1 after) (String.not_lt.1 before)))

instance : StrictTotalOrder Entity where
  lt_irrefl := Entity.lt_irrefl
  lt_trans := Entity.lt_trans
  lt_or_eq_or_gt := Entity.lt_or_eq_or_gt

/-- A finite set of names. -/
abbrev IriSet := SortedSet Iri

/-- A finite set of entities. -/
abbrev EntitySet := SortedSet Entity

/-- The set of the listed entities. -/
abbrev EntitySet.ofList (entities : List Entity) : EntitySet := SortedSet.ofList entities

end OntologyModules
