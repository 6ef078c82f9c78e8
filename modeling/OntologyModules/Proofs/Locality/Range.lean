import OntologyModules.Proofs.Locality.Expansion

/-!
# Range axioms and restrictions to the same filler

That a property leads into a filler only can be said by a range axiom, or by saying that everything
is in the universal restriction of the property to that filler. For object properties the two are
local together, a full filler makes the universal restriction full, and an empty one makes the
existential restriction empty (`Axiom.RangeAgrees`).

For data properties the rule for range axioms asks whether the data range is full, while
restrictions ask for its bounds, and no bound says that the datatype of all literals is full. The
restrictions read that datatype as if it were restricted by no facets, which are the same values
but of which nothing is known (`DataRange.extent_restrictLiteral`). So the two agree unless the
property may relate something and that other spelling is judged otherwise
(`Signature.rangeAgrees_iff`).
-/

namespace OntologyModules

/-- A range axiom, the universal and the existential restriction judge their filler alike. -/
structure Axiom.RangeAgrees (signature : Signature) (filler : Extent) (range : Axiom)
    (universal existential : ClassExpression) : Prop where
  /-- The range axiom is local exactly if it is that everything is in the universal restriction. -/
  isLocal_iff : range.isLocal signature = true ↔
    (subClassOf .thing universal).isLocal signature = true
  /-- A full filler makes the universal restriction full. -/
  full : filler.full = true → (universal.extent signature).full = true
  /-- An empty filler makes the existential restriction empty. -/
  empty : filler.empty = true → (existential.extent signature).empty = true

namespace DataRange

mutual

/-- The data range with the datatype of all literals spelled as its restriction by no facets. -/
def restrictLiteral : DataRange → DataRange
  | datatype iri => if iri = Vocabulary.literal then restriction iri [] else datatype iri
  | complement range => complement (restrictLiteral range)
  | intersection operands => intersection (restrictLiteralAll operands)
  | union operands => union (restrictLiteralAll operands)
  | oneOf members => oneOf members
  | restriction iri facets => restriction iri facets

/-- Each of the data ranges with the datatype of all literals spelled so. -/
def restrictLiteralAll : List DataRange → List DataRange
  | [] => []
  | first :: rest => restrictLiteral first :: restrictLiteralAll rest

end

/-- The spelling is changed in each data range of a list. -/
theorem restrictLiteralAll_eq_map (ranges : List DataRange) :
    restrictLiteralAll ranges = ranges.map restrictLiteral := by
  induction ranges with
  | nil => rfl
  | cons first rest ih => rw [restrictLiteralAll, ih, List.map_cons]

/-- A data range in which the datatype of all literals does not stand is left as it is. -/
theorem restrictLiteral_of_plain {range : DataRange} (plain : range.containsLiteral = false) :
    range.restrictLiteral = range := by
  have listed {operands : List DataRange}
      (ih : ∀ operand ∈ operands, operand.containsLiteral = false →
        operand.restrictLiteral = operand)
      (plain : anyContainsLiteral operands = false) : restrictLiteralAll operands = operands := by
    rw [anyContainsLiteral_eq_false_iff] at plain
    rw [restrictLiteralAll_eq_map]
    exact List.map_congr_left (fun operand mem => ih operand mem (plain operand mem))
      |>.trans (List.map_id operands)
  induction range with
  | datatype iri => exact if_neg (beq_eq_false_iff_ne.1 plain)
  | complement range ih => rw [restrictLiteral, ih plain]
  | intersection operands ih => rw [restrictLiteral, listed ih plain]
  | union operands ih => rw [restrictLiteral, listed ih plain]
  | oneOf members => rfl
  | restriction iri facets => rfl

/-- What the bounds of a data range say is what is said of it when the datatype of all literals is
spelled as a restriction. -/
theorem extent_restrictLiteral (range : DataRange) :
    range.restrictLiteral.extent = range.bounds.extent := by
  have listed {operands : List DataRange}
      (ih : ∀ operand ∈ operands, operand.restrictLiteral.extent = operand.bounds.extent) :
      (operands.map restrictLiteral).map extent = (operands.map bounds).map Bounds.extent := by
    rw [List.map_map, List.map_map]
    exact List.map_congr_left ih
  induction range with
  | datatype iri =>
    -- Nothing is known of the restriction, and no bound limits a datatype or its complement.
    rw [restrictLiteral]
    split
    · rfl
    next other =>
      rw [extent, beq_eq_false_iff_ne.2 other]
      rfl
  | complement range ih => rw [restrictLiteral, extent, ih, bounds, Bounds.extent_complement]
  | intersection operands ih =>
    rw [restrictLiteral, restrictLiteralAll_eq_map, extent, extentAll_eq_map, listed ih, bounds,
      boundsAll_eq_map, Bounds.extent_intersection]
  | union operands ih =>
    rw [restrictLiteral, restrictLiteralAll_eq_map, extent, extentAll_eq_map, listed ih, bounds,
      boundsAll_eq_map, Bounds.extent_union]
  | oneOf members => rw [restrictLiteral, extent, bounds, Bounds.extent_ofMembers]
  | restriction iri facets => rfl

end DataRange

section

variable {signature : Signature} {property : Property}

/-- A universal restriction to a data range is full when the property is empty or the other
spelling of the data range is full. -/
theorem ClassExpression.full_data_universal_iff {range : DataRange} :
    ((data .universal property range).extent signature).full = true ↔
      (property.extent signature).empty = true ∨ range.restrictLiteral.extent.full = true := by
  rw [range.extent_restrictLiteral]
  exact Quantifier.full_universal_iff

/-- An existential restriction to a data range is empty when the property or the other spelling of
the data range is. -/
theorem ClassExpression.empty_data_existential_iff {range : DataRange} :
    ((data .existential property range).extent signature).empty = true ↔
      (property.extent signature).empty = true ∨ range.restrictLiteral.extent.empty = true := by
  rw [range.extent_restrictLiteral]
  exact Quantifier.empty_existential_or_iff

/-- Object properties and their class fillers are judged alike. -/
theorem Axiom.rangeAgrees_object (expression : ClassExpression) :
    RangeAgrees signature (expression.extent signature) (objectPropertyRange property expression)
      (.object .universal property expression) (.object .existential property expression) where
  isLocal_iff := by
    rw [isLocal_thing_subClassOf, isLocal, Bool.or_eq_true, or_comm, ← expression.extent_bounds]
    exact Quantifier.full_universal_iff.symm
  full whole := by
    rw [← expression.extent_bounds] at whole
    exact Quantifier.full_universal_iff.2 (.inr whole)
  empty none := by
    rw [← expression.extent_bounds] at none
    exact Quantifier.empty_existential_or_iff.2 (.inr none)

/-- That everything is in the universal restriction to a data range is local exactly if the range
axiom for the other spelling is. -/
theorem Axiom.isLocal_data_universal_iff {range : DataRange} :
    (subClassOf .thing (.data .universal property range)).isLocal signature = true ↔
      (dataPropertyRange property range.restrictLiteral).isLocal signature = true := by
  rw [isLocal_thing_subClassOf, ClassExpression.full_data_universal_iff, isLocal, Bool.or_eq_true,
    or_comm]

/-- If the data range is judged as its other spelling, or the property relates nothing, then data
properties and data ranges are judged alike. -/
theorem Axiom.rangeAgrees_data {range : DataRange}
    (same : (property.extent signature).empty = true ∨
      range.restrictLiteral.extent = range.extent) :
    RangeAgrees signature range.extent (dataPropertyRange property range)
      (.data .universal property range) (.data .existential property range) where
  isLocal_iff := by
    rw [isLocal_data_universal_iff, isLocal, isLocal, Bool.or_eq_true, Bool.or_eq_true]
    rcases same with none | same
    · exact iff_of_true (.inr none) (.inr none)
    · rw [same]
  full whole := by
    rw [ClassExpression.full_data_universal_iff]
    exact same.imp_right fun same => (congrArg Extent.full same).trans whole
  empty none := by
    rw [ClassExpression.empty_data_existential_iff]
    exact same.imp_right fun same => (congrArg Extent.empty same).trans none

/-- Data properties and data ranges are judged alike only if the data range is judged as its other
spelling, or the property relates nothing. -/
theorem Axiom.RangeAgrees.extent_eq {range : DataRange}
    (agrees : RangeAgrees signature range.extent (dataPropertyRange property range)
      (.data .universal property range) (.data .existential property range))
    (related : ¬(property.extent signature).empty = true) :
    range.restrictLiteral.extent = range.extent := by
  have refines := range.extent_refines
  rw [← range.extent_restrictLiteral] at refines
  refine congrArg₂ Extent.mk (Bool.eq_iff_iff.2 ⟨refines.full, fun whole => ?_⟩)
    (Bool.eq_iff_iff.2 ⟨refines.empty, fun none => ?_⟩)
  · exact (ClassExpression.full_data_universal_iff.1 (agrees.full whole)).resolve_left related
  · exact (ClassExpression.empty_data_existential_iff.1 (agrees.empty none)).resolve_left related

end

/-- Range axioms and restrictions of object properties judge their filler alike. Those of a data
property do exactly if the property surely relates nothing, or the data range is judged as it is
with the datatype of all literals spelled as its restriction by no facets; where that datatype does
not stand in the data range there is no other spelling. A range axiom is local wherever its
universal restriction says that it is. -/
theorem Signature.rangeAgrees_iff (signature : Signature) (property : Property) :
    (∀ expression : ClassExpression, Axiom.RangeAgrees signature (expression.extent signature)
      (.objectPropertyRange property expression) (.object .universal property expression)
      (.object .existential property expression)) ∧
    ∀ range : DataRange,
      (Axiom.RangeAgrees signature range.extent (.dataPropertyRange property range)
          (.data .universal property range) (.data .existential property range) ↔
        (property.extent signature).empty = true ∨
          range.restrictLiteral.extent = range.extent) ∧
      (range.containsLiteral = false → range.restrictLiteral = range) ∧
      ((Axiom.subClassOf .thing (.data .universal property range)).isLocal signature = true →
        (Axiom.dataPropertyRange property range).isLocal signature = true) := by
  refine ⟨Axiom.rangeAgrees_object, fun range => ⟨⟨fun agrees => ?_, Axiom.rangeAgrees_data⟩,
    DataRange.restrictLiteral_of_plain, fun isLocal => ?_⟩⟩
  · by_cases related : (property.extent signature).empty = true
    · exact .inl related
    · exact .inr (agrees.extent_eq related)
  · have refines := range.extent_refines
    rw [← range.extent_restrictLiteral] at refines
    rw [Axiom.isLocal_data_universal_iff, Axiom.isLocal, Bool.or_eq_true] at isLocal
    rw [Axiom.isLocal, Bool.or_eq_true]
    exact isLocal.imp_left refines.full

/-- A restriction of all literals by no facets has no other spelling, and the range of a universal
property is local for whatever is in it or is not in the empty enumeration. -/
theorem Signature.rangeAgrees_iff_of_restricted_literal :
    (DataRange.union [.restriction Vocabulary.literal [],
        .complement (.oneOf [])]).restrictLiteral =
      .union [.restriction Vocabulary.literal [], .complement (.oneOf [])] ∧
    (Axiom.dataPropertyRange (.data "p")
      (.union [.restriction Vocabulary.literal [], .complement (.oneOf [])])).isLocal
        (.ofFlavour .top) = true := by
  obtain ⟨-, ranges⟩ := Signature.rangeAgrees_iff (.ofFlavour .top) (.data "p")
  obtain ⟨-, plain, sound⟩ :=
    ranges (.union [.restriction Vocabulary.literal [], .complement (.oneOf [])])
  exact ⟨plain (by decide), sound (by decide +kernel)⟩

/-- The range of a property with all literals in it is local, and no restriction to them is known
to be full, nor one to their complement to be empty. -/
theorem Axiom.not_rangeAgrees_literal :
    (dataPropertyRange (.data "u") .literal).isLocal
        (.ofEntities [⟨.dataProperty, "u"⟩] default) = true ∧
      (subClassOf .thing (.data .universal (.data "u") .literal)).isLocal
        (.ofEntities [⟨.dataProperty, "u"⟩] default) = false ∧
      DataRange.literal.extent.full = true ∧
      (ClassExpression.extent (.ofEntities [⟨.dataProperty, "u"⟩] default)
        (.data .universal (.data "u") .literal)).full = false ∧
      (DataRange.complement .literal).extent.empty = true ∧
      (ClassExpression.extent (.ofEntities [⟨.dataProperty, "u"⟩] default)
        (.data .existential (.data "u") (.complement .literal))).empty = false := by
  decide +kernel

end OntologyModules
