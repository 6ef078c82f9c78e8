import OntologyModules.Locality.Signature
import OntologyModules.Property

/-!
# Universal and empty by reading

An extent records whether an expression is sure to hold of everything and whether it is sure to
hold of nothing, in every reading of the names outside a signature. Built-in entities have the
extent they are built in with, whether or not they are in the signature; an inverse has the
extent of its property; a chain holds of everything if all its properties do, and of nothing if
one of them does.
-/

namespace OntologyModules

/-- Whether something surely holds of everything, and whether it surely holds of nothing. -/
structure Extent where
  /-- It holds of everything. -/
  full : Bool
  /-- It holds of nothing. -/
  empty : Bool
deriving DecidableEq, Repr

namespace Extent

/-- Nothing is known. -/
def unknown : Extent := ⟨false, false⟩

/-- It holds of everything. -/
def top : Extent := ⟨true, false⟩

/-- It holds of nothing. -/
def bottom : Extent := ⟨false, true⟩

/-- What is known of the complement. -/
def complement (extent : Extent) : Extent := ⟨extent.empty, extent.full⟩

/-- What is known of an intersection. -/
def intersection (operands : List Extent) : Extent :=
  ⟨operands.all (·.full), operands.any (·.empty)⟩

/-- What is known of a union. -/
def union (operands : List Extent) : Extent :=
  ⟨operands.any (·.full), operands.all (·.empty)⟩

end Extent

namespace Entity

/-- What is known of a named class or property. -/
def extent (signature : Signature) (entity : Entity) : Extent where
  full := entity.isTop || !entity.isBottom && signature.readsTop entity
  empty := entity.isBottom || !entity.isTop && signature.readsBottom entity

end Entity

namespace Property

/-- What is known of a property expression: inverses change nothing. -/
def extent (signature : Signature) : Property → Extent
  | object iri => Entity.extent signature ⟨.objectProperty, iri⟩
  | data iri => Entity.extent signature ⟨.dataProperty, iri⟩
  | inverse property => property.extent signature

/-- A property expression has the extent of its name. -/
theorem extent_eq_named (signature : Signature) (property : Property) :
    property.extent signature = property.named.extent signature := by
  induction property with
  | object => rfl
  | data => rfl
  | inverse _ ih => exact ih

/-- What is known of the composition of a chain of properties. -/
def chainExtent (signature : Signature) (chain : List Property) : Extent :=
  .intersection (chain.map (·.extent signature))

end Property

end OntologyModules
