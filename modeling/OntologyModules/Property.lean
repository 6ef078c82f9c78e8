import OntologyModules.Entity

/-!
# Property expressions

A property expression is a named property, read forwards or backwards any number of times.
-/

namespace OntologyModules

/-- A named property or the inverse of a property expression. -/
inductive Property where
  /-- A named relation between individuals. -/
  | object (iri : Iri)
  /-- A named relation from individuals to literal values. -/
  | data (iri : Iri)
  /-- The relation with both sides exchanged. -/
  | inverse (property : Property)
deriving DecidableEq, Repr

namespace Property

/-- The named property below all inverses. -/
def named : Property → Entity
  | object iri => ⟨.objectProperty, iri⟩
  | data iri => ⟨.dataProperty, iri⟩
  | inverse property => property.named

/-- The name of a property expression is always that of a property. -/
theorem named_kind (property : Property) :
    property.named.kind = .objectProperty ∨ property.named.kind = .dataProperty := by
  induction property with
  | object => exact .inl rfl
  | data => exact .inr rfl
  | inverse _ ih => exact ih

end Property

end OntologyModules
