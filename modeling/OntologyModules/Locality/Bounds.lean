import OntologyModules.Cardinality.Bounds
import OntologyModules.ClassExpression
import OntologyModules.Locality.Extent

/-!
# Bounds on expressions

The four bounds of a class expression, a data range, a property or a chain, in every reading of
the names outside a signature. Connectives combine the bounds of their operands. A restriction
has upper bounds of zero or none: it is empty, or its complement is, when the property is
universal or empty and the filler's bounds decide the count; it is non-empty exactly when its
complement is known to be empty.
-/

namespace OntologyModules

/-- The list without the members that are repeated later. -/
def distinctMembers {α : Type} [DecidableEq α] : List α → List α
  | [] => []
  | first :: rest => if first ∈ rest then distinctMembers rest else first :: distinctMembers rest

/-- A member is kept at its last place. -/
theorem mem_distinctMembers {α : Type} [DecidableEq α] {members : List α} {member : α} :
    member ∈ distinctMembers members ↔ member ∈ members := by
  induction members with
  | nil => rfl
  | cons first rest ih =>
    rw [distinctMembers]
    split
    next repeated =>
      rw [ih, List.mem_cons]
      exact ⟨.inr, fun h => h.elim (fun same => same ▸ repeated) id⟩
    · simp [ih]

/-- Nothing is kept twice. -/
theorem nodup_distinctMembers {α : Type} [DecidableEq α] (members : List α) :
    (distinctMembers members).Nodup := by
  induction members with
  | nil => exact .nil
  | cons first rest ih =>
    rw [distinctMembers]
    split
    · exact ih
    next new => exact List.nodup_cons.2 ⟨fun mem => new (mem_distinctMembers.1 mem), ih⟩

/-- How many different members a list has. -/
def distinctCount {α : Type} [DecidableEq α] (members : List α) : UInt32 :=
  Saturating.ofNat (distinctMembers members).length

namespace Count

/-- How many individuals have so many related things in the filler at most. -/
def atLeastUpper (property : Extent) (filler : Bounds) (number : UInt32) : UpperBound :=
  if number = 0 then .unbounded
  else .lift (property.empty || filler.upper.isLessThan number)

/-- How many individuals have fewer related things in the filler at most. -/
def atLeastUpperComplement (property : Extent) (filler : Bounds) (number : UInt32) : UpperBound :=
  if number = 0 then .atMost 0
  else .lift (property.full && filler.lower.isAtLeast number)

/-- How many individuals have no more related things in the filler at most. -/
def atMostUpper (property : Extent) (filler : Bounds) (number : UInt32) : UpperBound :=
  .lift (property.full && filler.lower.isAtLeast (Saturating.add number 1))

/-- How many individuals have more related things in the filler at most. -/
def atMostUpperComplement (property : Extent) (filler : Bounds) (number : UInt32) : UpperBound :=
  .lift (property.empty || filler.upper.isAtMost number)

/-- The bounds of the individuals that meet the limit. -/
def bounds (property : Extent) (filler : Bounds) : Count → Bounds
  | atLeast number =>
    .ofUpper (atLeastUpper property filler number) (atLeastUpperComplement property filler number)
  | atMost number =>
    .ofUpper (atMostUpper property filler number) (atMostUpperComplement property filler number)
  | exactly number =>
    .ofUpper (min (atLeastUpper property filler number) (atMostUpper property filler number))
      (max (atLeastUpperComplement property filler number)
        (atMostUpperComplement property filler number))

end Count

namespace Quantifier

/-- The bounds of the individuals whose related things all are in the filler. -/
def universalBounds (property : Extent) (filler : Bounds) : Bounds :=
  .ofUpper (.lift (property.full && filler.lowerComplement.isAtLeast 1))
    (.lift (property.empty || filler.upperComplement.isAtMost 0))

/-- The bounds of a restriction. -/
def bounds (property : Extent) (filler : Bounds) : Quantifier → Bounds
  | existential => (Count.atLeast 1).bounds property filler
  | universal => universalBounds property filler
  | .count limit => limit.bounds property filler

end Quantifier

namespace Entity

/-- The bounds of a named class or property. -/
def bounds (signature : Signature) (entity : Entity) : Bounds :=
  if entity.isTop then .full
  else if entity.isBottom then .empty
  else
    { upper := .lift (signature.readsBottom entity)
      upperComplement := .lift (signature.readsTop entity)
      lower := .lift (signature.readsTop entity)
      lowerComplement := .lift (signature.readsBottom entity) }

end Entity

namespace Property

/-- The bounds of a property expression: inverses change nothing. -/
def bounds (signature : Signature) : Property → Bounds
  | object iri => Entity.bounds signature ⟨.objectProperty, iri⟩
  | data iri => Entity.bounds signature ⟨.dataProperty, iri⟩
  | inverse property => property.bounds signature

/-- The bounds of the composition of a chain of properties. -/
def chainBounds (signature : Signature) (chain : List Property) : Bounds where
  upper := .lift (chain.any (·.extent signature |>.empty))
  upperComplement := .lift (chain.all (·.extent signature |>.full))
  lower := .lift (chain.all (·.extent signature |>.full))
  lowerComplement := .lift (chain.any (·.extent signature |>.empty))

/-- The bounds of what stands in a relation that is related to a value by the property: there
may always be something, and there is if the property is universal. -/
def valueBounds (property : Extent) : Bounds where
  upper := .unbounded
  upperComplement := .lift property.full
  lower := .lift property.full
  lowerComplement := .zero

end Property

namespace DataRange

/-- The bounds of a datatype: nothing but that the datatype of all literals has a value. -/
def datatypeBounds (allLiterals : Bool) : Bounds :=
  ⟨.unbounded, .unbounded, .lift allLiterals, .zero⟩

mutual

/-- The bounds of a data range. -/
def bounds : DataRange → Bounds
  | datatype iri => datatypeBounds (iri == Vocabulary.literal)
  | complement range => (bounds range).complement
  | intersection operands => .intersection (boundsAll operands)
  | union operands => .union (boundsAll operands)
  | oneOf members => .ofMembers (distinctCount members)
  | restriction _ _ => .unknown

/-- The bounds of each of the data ranges. -/
def boundsAll : List DataRange → List Bounds
  | [] => []
  | first :: rest => bounds first :: boundsAll rest

end

/-- Each data range of a list has its own bounds. -/
theorem boundsAll_eq_map (ranges : List DataRange) : boundsAll ranges = ranges.map bounds := by
  induction ranges with
  | nil => rfl
  | cons first rest ih => rw [boundsAll, ih, List.map_cons]

end DataRange

namespace ClassExpression

mutual

/-- The bounds of a class expression. -/
def bounds (signature : Signature) : ClassExpression → Bounds
  | named iri => Entity.bounds signature ⟨.namedClass, iri⟩
  | thing => .full
  | nothing => .empty
  | complement operand => (bounds signature operand).complement
  | intersection operands => .intersection (boundsAll signature operands)
  | union operands => .union (boundsAll signature operands)
  | oneOf members => .ofMembers (distinctCount members)
  | object quantifier property filler =>
    quantifier.bounds (property.extent signature) (bounds signature filler)
  | objectCount count property => count.bounds (property.extent signature) .full
  | hasValue property _ | hasSelf property | dataHasValue property _ =>
    Property.valueBounds (property.extent signature)
  | data quantifier property filler =>
    quantifier.bounds (property.extent signature) filler.bounds
  | dataCount count property =>
    count.bounds (property.extent signature) (DataRange.datatypeBounds true)

/-- The bounds of each of the class expressions. -/
def boundsAll (signature : Signature) : List ClassExpression → List Bounds
  | [] => []
  | first :: rest => bounds signature first :: boundsAll signature rest

end

/-- Each class expression of a list has its own bounds. -/
theorem boundsAll_eq_map (signature : Signature) (classes : List ClassExpression) :
    boundsAll signature classes = classes.map (bounds signature) := by
  induction classes with
  | nil => rfl
  | cons first rest ih => rw [boundsAll, ih, List.map_cons]

end ClassExpression

end OntologyModules
