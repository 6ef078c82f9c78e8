/-!
# Flavours of locality

A flavour says how names outside a signature are read: as empty or as universal. A convention
chooses a flavour for classes and one for properties.
-/

namespace OntologyModules

/-- How a name outside the signature is read. -/
inductive Flavour where
  /-- The name holds of nothing. -/
  | bottom
  /-- The name holds of everything. -/
  | top
deriving DecidableEq, Repr

namespace Flavour

instance : Inhabited Flavour := ⟨bottom⟩

/-- Whether names outside the signature hold of everything. -/
def isTop (flavour : Flavour) : Bool := flavour = top

/-- The other flavour. -/
def opposite : Flavour → Flavour
  | bottom => top
  | top => bottom

end Flavour

/-- The flavours in which classes and properties outside a signature are read. -/
structure Convention where
  /-- The flavour of classes. -/
  classes : Flavour
  /-- The flavour of object properties and data properties. -/
  properties : Flavour
deriving DecidableEq, Repr

namespace Convention

instance : Inhabited Convention := ⟨⟨default, default⟩⟩

/-- The same flavour for classes and properties. -/
def uniform (flavour : Flavour) : Convention := ⟨flavour, flavour⟩

end Convention

end OntologyModules
