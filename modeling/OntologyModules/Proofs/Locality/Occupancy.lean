import OntologyModules.Proofs.Locality.Consistency
import OntologyModules.Proofs.Syntax.Arity

/-!
# Full expressions have elements

Domains are not empty, so what is full has an element and what is empty leaves one out. The rules
find this out for themselves: whenever they say that a class expression is full, their lower bound
for it is one, and whenever they say that it is empty, the lower bound of its complement is
(`ClassExpression.occupied_bounds`). The operands of an intersection are counted by subtraction and
have to be there for that, so the expression has to have enough operands; an intersection of
nothing is said to be full and has no element that the rules know of. Restrictions by a universal
property ask just for a known element inside or outside their filler, so they follow the filler
(`ClassExpression.known_element_of_full`).
-/

namespace OntologyModules

/-- Operands that have an element each and leave nothing out share an element. -/
theorem LowerBound.one_le_ofIntersection {operands : List (LowerBound × UpperBound)}
    (listed : operands ≠ []) (elements : ∀ operand ∈ operands, 1 ≤ operand.1.toENat)
    (whole : ∀ operand ∈ operands, operand.2 = .atMost 0) :
    1 ≤ (ofIntersection operands).toENat := by
  have amounts : ∀ operand ∈ operands, operand.2.amount = 0 := by
    intro operand mem
    rw [whole operand mem]
    rfl
  have fits : (operands.map (·.2.amount)).sum ≤ Saturating.greatest := by
    rw [List.sum_eq_zero (List.forall_mem_map.2 amounts)]
    exact Nat.zero_le _
  have scoresFit : ∀ operand ∈ operands,
      operand.1.number.toNat + operand.2.amount ≤ Saturating.greatest := by
    intro operand mem
    have word := operand.1.number.toNat_lt
    rw [amounts operand mem, Saturating.greatest]
    omega
  rw [toENat_ofIntersection fits scoresFit]
  cases operands with
  | nil => exact absurd rfl listed
  | cons first rest =>
    have taken : (rest.map (·.2.toENat)).sum = 0 := by
      apply List.sum_eq_zero
      intro amount mem
      obtain ⟨operand, within, rfl⟩ := List.mem_map.1 mem
      exact UpperBound.toENat_eq_zero.2 (whole operand (List.mem_cons_of_mem first within))
    calc
      1 ≤ first.1.toENat := elements first List.mem_cons_self
      _ = first.1.toENat - (rest.map (·.2.toENat)).sum := by rw [taken, tsub_zero]
      _ ≤ exactIntersection (first :: rest) := le_max_left _ _

namespace Bounds

/-- What is said to be full is known to have an element, and what is said to be empty is known to
leave one out. -/
structure Occupied (bounds : Bounds) : Prop where
  /-- A full set has an element. -/
  one_le_lower : bounds.extent.full = true → 1 ≤ bounds.lower.toENat
  /-- The complement of an empty set has an element. -/
  one_le_lowerComplement : bounds.extent.empty = true → 1 ≤ bounds.lowerComplement.toENat

/-- Complementing exchanges the two conditions. -/
theorem Occupied.complement {bounds : Bounds} (occupied : bounds.Occupied) :
    bounds.complement.Occupied := ⟨occupied.one_le_lowerComplement, occupied.one_le_lower⟩

/-- Bounds made of an extent have the elements that it calls for. -/
theorem occupied_ofExtent (extent : Extent) : (ofExtent extent).Occupied where
  one_le_lower := fun full => by
    rw [extent_ofExtent] at full
    rw [toENat_lower_ofExtent, if_pos full]
  one_le_lowerComplement := fun empty => by
    rw [extent_ofExtent] at empty
    rw [toENat_lowerComplement_ofExtent, if_pos empty]

/-- Bounds that are those of an extent have the elements that it calls for. -/
theorem occupied_of_eq_ofExtent {bounds : Bounds} {extent : Extent}
    (same : bounds = ofExtent extent) : bounds.Occupied := by
  rw [same]
  exact occupied_ofExtent extent

/-- An enumeration with a member is neither full nor empty. -/
theorem occupied_ofMembers {α : Type} [DecidableEq α] {members : List α}
    (listed : members.isEmpty = false) : (ofMembers (distinctCount members)).Occupied := by
  have unknown := extent_ofMembers members
  rw [listed] at unknown
  constructor
  · intro full
    rw [unknown] at full
    exact absurd full Bool.false_ne_true
  · intro empty
    rw [unknown] at empty
    exact absurd empty Bool.false_ne_true

section

variable {operands : List Bounds}

/-- An intersection of some operands has the elements that its extent calls for. -/
theorem occupied_intersection (listed : operands ≠ [])
    (occupied : ∀ operand ∈ operands, operand.Occupied) : (intersection operands).Occupied where
  one_le_lower := fun full => by
    rw [extent_intersection, Extent.intersection, List.all_map, List.all_eq_true] at full
    apply LowerBound.one_le_ofIntersection
    · rwa [ne_eq, List.map_eq_nil_iff]
    · exact List.forall_mem_map.2 fun operand mem =>
        (occupied operand mem).one_le_lower (full operand mem)
    · exact List.forall_mem_map.2 fun operand mem => full_extent_iff.1 (full operand mem)
  one_le_lowerComplement := fun empty => by
    rw [extent_intersection, Extent.intersection, List.any_map, List.any_eq_true] at empty
    obtain ⟨operand, mem, operandEmpty⟩ := empty
    have greatest :
        operand.lowerComplement.toENat ≤ (intersection operands).lowerComplement.toENat :=
      LowerBound.toENat_greatestOf_le.1 le_rfl _ (List.mem_map_of_mem mem)
    exact ((occupied operand mem).one_le_lowerComplement operandEmpty).trans greatest

/-- A union of some operands has the elements that its extent calls for. -/
theorem occupied_union (listed : operands ≠ [])
    (occupied : ∀ operand ∈ operands, operand.Occupied) : (union operands).Occupied := by
  rw [union_eq_complement]
  apply Occupied.complement
  apply occupied_intersection
  · rwa [ne_eq, List.map_eq_nil_iff]
  · exact List.forall_mem_map.2 fun operand mem => (occupied operand mem).complement

end

end Bounds

namespace ClassExpression

variable (signature : Signature)

/-- A class expression with enough operands has the elements that its extent calls for. Restrictions
have them whatever their filler. -/
theorem occupied_bounds {expression : ClassExpression}
    (enough : expression.hasEnoughOperands = true) : (expression.bounds signature).Occupied := by
  have connective {operands : List ClassExpression}
      (ih : ∀ operand ∈ operands, operand.hasEnoughOperands = true →
        (operand.bounds signature).Occupied)
      (enough : (decide (2 ≤ operands.length) && allHaveEnoughOperands operands) = true) :
      operands.map (bounds signature) ≠ [] ∧
        ∀ operand ∈ operands.map (bounds signature), operand.Occupied := by
    obtain ⟨two, each⟩ := enough_operands_iff.1 enough
    constructor
    · intro none
      rw [List.map_eq_nil_iff.1 none] at two
      exact absurd two (by decide)
    · exact List.forall_mem_map.2 fun operand mem => ih operand mem (each operand mem)
  induction expression with
  | named iri => exact Bounds.occupied_of_eq_ofExtent (Entity.bounds_eq_ofExtent signature _)
  | thing => exact Bounds.occupied_ofExtent .top
  | nothing => exact Bounds.occupied_ofExtent .bottom
  | complement operand ih => exact (ih enough).complement
  | intersection operands ih =>
    obtain ⟨listed, occupied⟩ := connective ih enough
    rw [bounds, boundsAll_eq_map]
    exact Bounds.occupied_intersection listed occupied
  | union operands ih =>
    obtain ⟨listed, occupied⟩ := connective ih enough
    rw [bounds, boundsAll_eq_map]
    exact Bounds.occupied_union listed occupied
  | oneOf members =>
    rw [hasEnoughOperands, Bool.not_eq_true'] at enough
    exact Bounds.occupied_ofMembers enough
  | object quantifier property filler _ =>
    exact Bounds.occupied_of_eq_ofExtent Quantifier.bounds_eq_ofExtent
  | objectCount count property => exact Bounds.occupied_of_eq_ofExtent Count.bounds_eq_ofExtent
  | hasValue property value =>
    exact Bounds.occupied_of_eq_ofExtent (Property.valueBounds_eq_ofExtent _)
  | hasSelf property => exact Bounds.occupied_of_eq_ofExtent (Property.valueBounds_eq_ofExtent _)
  | data quantifier property filler =>
    exact Bounds.occupied_of_eq_ofExtent Quantifier.bounds_eq_ofExtent
  | dataCount count property => exact Bounds.occupied_of_eq_ofExtent Count.bounds_eq_ofExtent
  | dataHasValue property value =>
    exact Bounds.occupied_of_eq_ofExtent (Property.valueBounds_eq_ofExtent _)

variable {signature} {expression : ClassExpression}

/-- A full class expression with enough operands is known to have one element. -/
theorem lower_eq_one (enough : expression.hasEnoughOperands = true)
    (full : (expression.extent signature).full = true) :
    (expression.bounds signature).lower = ⟨1⟩ := by
  rw [← extent_bounds] at full
  apply LowerBound.toENat_inj.1
  apply le_antisymm
  · exact (expression.consistent_bounds signature).lower_le_one
  · exact (occupied_bounds signature enough).one_le_lower full

/-- An empty class expression with enough operands is known to leave one element out: its complement
is full. -/
theorem lowerComplement_eq_one (enough : expression.hasEnoughOperands = true)
    (empty : (expression.extent signature).empty = true) :
    (expression.bounds signature).lowerComplement = ⟨1⟩ := by
  have enough' : (complement expression).hasEnoughOperands = true := enough
  have full : ((complement expression).extent signature).full = true := empty
  exact lower_eq_one enough' full

/-- A class expression with enough operands that is full is known to have an element, and one that
is empty is known to leave one out. Everything is therefore related by a universal property to
something in a full filler, and to something outside an empty one. -/
theorem known_element_of_full (signature : Signature) :
    (∀ expression : ClassExpression, expression.hasEnoughOperands = true →
      ((expression.extent signature).full = true →
        (expression.bounds signature).lower = ⟨1⟩) ∧
      ((expression.extent signature).empty = true →
        (expression.bounds signature).lowerComplement = ⟨1⟩)) ∧
    ∀ (property : Property) (filler : ClassExpression),
      (property.extent signature).full = true → filler.hasEnoughOperands = true →
        ((filler.extent signature).full = true →
          ((someValuesFrom property filler).extent signature).full = true ∧
          ((object (.count (.atLeast 1)) property filler).extent signature).full = true) ∧
        ((filler.extent signature).empty = true →
          ((allValuesFrom property filler).extent signature).empty = true) := by
  refine ⟨fun expression enough => ⟨lower_eq_one enough, lowerComplement_eq_one enough⟩,
    fun property filler universal enough => ⟨fun full => ?_, fun empty => ?_⟩⟩
  · have related : Count.EnoughForAll (property.extent signature) (filler.bounds signature) 1 := by
      refine .inr ⟨universal, ?_⟩
      rw [lower_eq_one enough full]
      exact le_rfl
    exact ⟨Quantifier.full_iff.2 related, Quantifier.full_iff.2 related⟩
  · have single := (filler.consistent_bounds signature).lower_le_one
    refine (Quantifier.empty_iff single).2 ⟨universal, ?_⟩
    rw [lowerComplement_eq_one enough empty]
    exact le_rfl

/-- Without names in the signature, whatever is not an `A` makes a union full, and an enumeration
of which only the `A` are asked for is empty. -/
theorem known_element_of_full_outside_empty_name :
    (bounds .empty (union [complement (named "A"), oneOf ["a"]])).lower = ⟨1⟩ ∧
    (extent .empty (object (.count (.atLeast 1))
      (.inverse (.object Vocabulary.topObjectProperty))
      (union [complement (named "A"), oneOf ["a"]]))).full = true ∧
    (extent .empty (allValuesFrom (.inverse (.object Vocabulary.topObjectProperty))
      (intersection [oneOf ["a"], named "A"]))).empty = true := by
  obtain ⟨known, restricted⟩ := known_element_of_full .empty
  have universal : ((Property.inverse (.object Vocabulary.topObjectProperty)).extent
      .empty).full = true := by decide
  have union : hasEnoughOperands (union [complement (named "A"), oneOf ["a"]]) = true :=
    hasEnoughOperands_of_fault?_eq_none (by decide)
  have intersection : hasEnoughOperands (intersection [oneOf ["a"], named "A"]) = true :=
    hasEnoughOperands_of_fault?_eq_none (by decide)
  exact ⟨(known _ union).1 (by decide), ((restricted _ _ universal union).1 (by decide)).2,
    (restricted _ _ universal intersection).2 (by decide)⟩

/-- An intersection of nothing is said to be full, and no element of it is known. -/
example : (extent .empty (intersection [])).full = true ∧
    (bounds .empty (intersection [])).lower = .zero := by decide

end ClassExpression

end OntologyModules
