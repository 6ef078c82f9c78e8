import OntologyModules.Locality.Bounds

/-!
# Fillers

A restriction speaks of the related individuals of a class or of the related values of a data
range. A limit need not give either, and then speaks of all individuals or of all values. The
four kinds of fillers are one type here, each with its bounds.
-/

namespace OntologyModules

/-- What a restriction says its related things are. -/
inductive Filler where
  /-- Individuals of a class. -/
  | ofClass (expression : ClassExpression)
  /-- Values of a data range. -/
  | ofRange (range : DataRange)
  /-- Individuals of any kind, as when no class is given. -/
  | thing
  /-- Values of any kind, as when no data range is given. -/
  | literal
deriving Repr

namespace Filler

/-- The filler of a restriction on individuals, which may give no class. -/
def ofClass? : Option ClassExpression → Filler
  | some expression => ofClass expression
  | none => thing

/-- The filler of a restriction on values, which may give no data range. -/
def ofRange? : Option DataRange → Filler
  | some range => ofRange range
  | none => literal

/-- The bounds of the filler. -/
def bounds (signature : Signature) : Filler → Bounds
  | ofClass expression => expression.bounds signature
  | ofRange range => range.bounds
  | thing => .full
  | literal => DataRange.datatypeBounds true

end Filler

end OntologyModules
