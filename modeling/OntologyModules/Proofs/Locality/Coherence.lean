import OntologyModules.Proofs.Cardinality.Refines
import OntologyModules.Proofs.Locality.Expression

/-!
# What is said of an expression and what its bounds say

Two recursions judge an expression. One decides whether it is full and whether it is empty; the
other one computes four bounds, of which a zero says the same. The first never says both
(`Expression.not_full_and_empty`), and it agrees with the second
(`Signature.extent_agrees_with_bounds`): exactly, for class expressions, properties and chains.
A data range may be said to be full or empty where no bound says so, since only the first
recursion knows that the datatype of all literals leaves nothing out.
-/

namespace OntologyModules

namespace Property

variable (signature : Signature)

/-- No chain is said to hold of everything and of nothing. -/
theorem exclusive_chainExtent (chain : List Property) : (chainExtent signature chain).Exclusive :=
  Extent.exclusive_intersection
    (List.forall_mem_map.2 fun property _ => property.exclusive_extent signature)

/-- What is said of a property to be full or empty is what its bounds say. -/
theorem extent_bounds (property : Property) :
    (property.bounds signature).extent = property.extent signature := by
  rw [bounds_eq_ofExtent, Bounds.extent_ofExtent]

/-- What is said of a chain to be full or empty is what its bounds say. -/
theorem extent_chainBounds (chain : List Property) :
    (chainBounds signature chain).extent = chainExtent signature chain := by
  rw [chainBounds_eq_ofExtent, Bounds.extent_ofExtent]

end Property

namespace DataRange

mutual

/-- Whether the datatype of all literals stands somewhere in the range, other than as the type of
a constant or of a facet restriction. -/
def containsLiteral : DataRange → Bool
  | datatype iri => iri == Vocabulary.literal
  | complement range => containsLiteral range
  | intersection operands => anyContainsLiteral operands
  | union operands => anyContainsLiteral operands
  | oneOf _ | restriction _ _ => false

/-- Whether the datatype of all literals stands somewhere in one of the ranges. -/
def anyContainsLiteral : List DataRange → Bool
  | [] => false
  | first :: rest => containsLiteral first || anyContainsLiteral rest

end

/-- The datatype of all literals stands nowhere in a list when it stands in no member. -/
theorem anyContainsLiteral_eq_false_iff {ranges : List DataRange} :
    anyContainsLiteral ranges = false ↔ ∀ range ∈ ranges, range.containsLiteral = false := by
  induction ranges with
  | nil => simp [anyContainsLiteral]
  | cons first rest ih => simp [anyContainsLiteral, ih]

/-- No data range is said to hold of every value and of none. -/
theorem exclusive_extent (range : DataRange) : range.extent.Exclusive := by
  induction range with
  | datatype iri => exact fun both => Bool.false_ne_true both.2
  | complement range ih => exact ih.complement
  | intersection operands ih =>
    rw [extent, extentAll_eq_map]
    exact Extent.exclusive_intersection (List.forall_mem_map.2 ih)
  | union operands ih =>
    rw [extent, extentAll_eq_map]
    exact Extent.exclusive_union (List.forall_mem_map.2 ih)
  | oneOf members => exact fun both => Bool.false_ne_true both.1
  | restriction iri facets => exact fun both => Bool.false_ne_true both.1

/-- Whatever the bounds of a data range say to be full or empty is said to be so. -/
theorem extent_refines (range : DataRange) : range.extent.Refines range.bounds.extent := by
  induction range with
  | datatype iri =>
    -- No bound limits a datatype or its complement, not even where it is known to be full.
    exact ⟨fun full => absurd full Bool.false_ne_true, id⟩
  | complement range ih => exact ih.complement
  | intersection operands ih =>
    rw [extent, extentAll_eq_map, bounds, boundsAll_eq_map, Bounds.extent_intersection,
      List.map_map]
    exact Extent.refines_intersection ih
  | union operands ih =>
    rw [extent, extentAll_eq_map, bounds, boundsAll_eq_map, Bounds.extent_union, List.map_map]
    exact Extent.refines_union ih
  | oneOf members =>
    rw [extent, bounds, Bounds.extent_ofMembers]
    exact .refl _
  | restriction iri facets => exact .refl _

/-- Without the datatype of all literals, what is said of a data range is what its bounds say. -/
theorem extent_bounds (range : DataRange) (plain : range.containsLiteral = false) :
    range.bounds.extent = range.extent := by
  have listed {operands : List DataRange}
      (ih : ∀ operand ∈ operands, operand.containsLiteral = false →
        operand.bounds.extent = operand.extent)
      (plain : anyContainsLiteral operands = false) :
      (operands.map bounds).map Bounds.extent = operands.map extent := by
    rw [List.map_map]
    rw [anyContainsLiteral_eq_false_iff] at plain
    exact List.map_congr_left fun operand mem => ih operand mem (plain operand mem)
  induction range with
  | datatype iri =>
    have other : (iri == Vocabulary.literal) = false := plain
    rw [extent, other]
    rfl
  | complement range ih => rw [bounds, Bounds.extent_complement, ih plain, extent]
  | intersection operands ih =>
    rw [bounds, boundsAll_eq_map, Bounds.extent_intersection, listed ih plain, extent,
      extentAll_eq_map]
  | union operands ih =>
    rw [bounds, boundsAll_eq_map, Bounds.extent_union, listed ih plain, extent, extentAll_eq_map]
  | oneOf members => rw [bounds, Bounds.extent_ofMembers, extent]
  | restriction iri facets => rfl

/-- The datatype of all literals itself is full, and no bound says so. -/
example : literal.extent.full = true ∧ literal.bounds.upperComplement = .unbounded := by decide

end DataRange

/-- No expression of any kind is said to hold of everything and of nothing. -/
theorem Expression.not_full_and_empty (signature : Signature) (expression : Expression) :
    ¬((expression.extent signature).full = true ∧ (expression.extent signature).empty = true) := by
  cases expression with
  | ofClass expression => exact expression.exclusive_extent signature
  | ofRange range => exact range.exclusive_extent
  | ofProperty property => exact property.exclusive_extent signature
  | ofChain chain => exact Property.exclusive_chainExtent signature chain

/-- What is said to be empty is what has at most no element, and what is said to be full is what
leaves at most none out. Of data ranges more may be said, but only of those that contain the
datatype of all literals. -/
theorem Signature.extent_agrees_with_bounds (signature : Signature) :
    (∀ expression : ClassExpression,
      ((expression.extent signature).empty = true ↔
        (expression.bounds signature).upper = .atMost 0) ∧
      ((expression.extent signature).full = true ↔
        (expression.bounds signature).upperComplement = .atMost 0)) ∧
    (∀ property : Property,
      ((property.extent signature).empty = true ↔
        (property.bounds signature).upper = .atMost 0) ∧
      ((property.extent signature).full = true ↔
        (property.bounds signature).upperComplement = .atMost 0)) ∧
    (∀ chain : List Property,
      ((Property.chainExtent signature chain).empty = true ↔
        (Property.chainBounds signature chain).upper = .atMost 0) ∧
      ((Property.chainExtent signature chain).full = true ↔
        (Property.chainBounds signature chain).upperComplement = .atMost 0)) ∧
    ∀ range : DataRange,
      (range.bounds.upper = .atMost 0 → range.extent.empty = true) ∧
      (range.bounds.upperComplement = .atMost 0 → range.extent.full = true) ∧
      (range.containsLiteral = false →
        (range.extent.empty = true ↔ range.bounds.upper = .atMost 0) ∧
        (range.extent.full = true ↔ range.bounds.upperComplement = .atMost 0)) := by
  have agree {extent : Extent} {bounds : Bounds} (same : bounds.extent = extent) :
      (extent.empty = true ↔ bounds.upper = .atMost 0) ∧
        (extent.full = true ↔ bounds.upperComplement = .atMost 0) := by
    rw [← same]
    exact ⟨Bounds.empty_extent_iff, Bounds.full_extent_iff⟩
  refine ⟨fun expression => agree (expression.extent_bounds signature),
    fun property => agree (property.extent_bounds signature),
    fun chain => agree (Property.extent_chainBounds signature chain), fun range => ?_⟩
  refine ⟨fun zero => ?_, fun zero => ?_, fun plain => agree (range.extent_bounds plain)⟩
  · exact range.extent_refines.empty (Bounds.empty_extent_iff.2 zero)
  · exact range.extent_refines.full (Bounds.full_extent_iff.2 zero)

/-- An enumeration without members is empty by both accounts, its complement full, also beside the
datatype of all literals, and beside a facet restriction of it exactly so. -/
theorem Signature.extent_agrees_with_bounds_beside_literal :
    (DataRange.extent (.intersection [.literal, .oneOf []])).empty = true ∧
    (DataRange.extent (.union [.literal, .complement (.oneOf [])])).full = true ∧
    ((DataRange.extent (.union [.restriction Vocabulary.literal [], .complement (.oneOf [])])).full =
        true ↔
      (DataRange.bounds (.union [.restriction Vocabulary.literal [],
        .complement (.oneOf [])])).upperComplement = .atMost 0) := by
  obtain ⟨-, -, -, ranges⟩ := Signature.extent_agrees_with_bounds .empty
  obtain ⟨empty, -, -⟩ := ranges (.intersection [.literal, .oneOf []])
  obtain ⟨-, full, -⟩ := ranges (.union [.literal, .complement (.oneOf [])])
  obtain ⟨-, -, plain⟩ :=
    ranges (.union [.restriction Vocabulary.literal [], .complement (.oneOf [])])
  exact ⟨empty (by decide), full (by decide), (plain (by decide)).2⟩

end OntologyModules
