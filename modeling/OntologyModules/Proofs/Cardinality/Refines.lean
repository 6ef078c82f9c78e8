import OntologyModules.Proofs.Cardinality.Bounds

/-!
# Knowing more

One extent refines another when it says everything that the other one says, and bounds refine
others when they leave no more room. Every operation on bounds keeps the relation. For the lower
bound of an intersection this is a fact about the exact number only, since the single pass
treats operands whose complement is unbounded apart from the others
(`LowerBound.exactIntersection_mono`).
-/

namespace OntologyModules

/-- The first extent says all that the second one says. -/
structure Extent.Refines (first second : Extent) : Prop where
  /-- What the second one says to be full is said to be so by the first one. -/
  full : second.full = true → first.full = true
  /-- What the second one says to be empty is said to be so by the first one. -/
  empty : second.empty = true → first.empty = true

/-- The first bounds leave no more room than the second ones. -/
structure Bounds.Refines (first second : Bounds) : Prop where
  /-- The upper bound is no greater. -/
  upper : first.upper ≤ second.upper
  /-- The complement's upper bound is no greater. -/
  upperComplement : first.upperComplement ≤ second.upperComplement
  /-- The lower bound is no less. -/
  lower : second.lower ≤ first.lower
  /-- The complement's lower bound is no less. -/
  lowerComplement : second.lowerComplement ≤ first.lowerComplement

namespace Extent

/-- An extent says all that it says. -/
theorem Refines.refl (extent : Extent) : extent.Refines extent := ⟨id, id⟩

/-- Intersections are refined where the operands are. -/
theorem refines_intersection {ι : Type} {operands : List ι} {first second : ι → Extent}
    (refines : ∀ operand ∈ operands, (first operand).Refines (second operand)) :
    (intersection (operands.map first)).Refines (intersection (operands.map second)) where
  full := fun all => by
    rw [intersection, List.all_eq_true, List.forall_mem_map] at all ⊢
    exact fun operand mem => (refines operand mem).full (all operand mem)
  empty := fun any => by
    obtain ⟨extent, mem, empty⟩ := List.any_eq_true.1 any
    obtain ⟨operand, within, rfl⟩ := List.mem_map.1 mem
    exact List.any_eq_true.2
      ⟨first operand, List.mem_map_of_mem within, (refines operand within).empty empty⟩

/-- Complements are refined where the operands are. -/
theorem Refines.complement {first second : Extent} (refines : first.Refines second) :
    first.complement.Refines second.complement := ⟨refines.empty, refines.full⟩

/-- Unions are refined where the operands are. -/
theorem refines_union {ι : Type} {operands : List ι} {first second : ι → Extent}
    (refines : ∀ operand ∈ operands, (first operand).Refines (second operand)) :
    (union (operands.map first)).Refines (union (operands.map second)) := by
  rw [union_eq_complement, union_eq_complement, List.map_map, List.map_map]
  exact (refines_intersection fun operand mem => (refines operand mem).complement).complement

end Extent

namespace Bounds

/-- Bounds refine themselves. -/
theorem Refines.refl (bounds : Bounds) : bounds.Refines bounds where
  upper := UpperBound.toENat_le_toENat.1 le_rfl
  upperComplement := UpperBound.toENat_le_toENat.1 le_rfl
  lower := LowerBound.toENat_le_toENat.1 le_rfl
  lowerComplement := LowerBound.toENat_le_toENat.1 le_rfl

/-- Complements are refined where the sets are. -/
theorem Refines.complement {first second : Bounds} (refines : first.Refines second) :
    first.complement.Refines second.complement :=
  ⟨refines.upperComplement, refines.upper, refines.lowerComplement, refines.lower⟩

/-- Bounds that leave no more room say no less of what is full or empty. -/
theorem Refines.extent {first second : Bounds} (refines : first.Refines second) :
    first.extent.Refines second.extent where
  full := fun full => by
    have least := UpperBound.toENat_le_toENat.2 refines.upperComplement
    rw [full_extent_iff, ← UpperBound.toENat_eq_zero] at full ⊢
    rw [full] at least
    exact le_zero_iff.1 least
  empty := fun empty => by
    have least := UpperBound.toENat_le_toENat.2 refines.upper
    rw [empty_extent_iff, ← UpperBound.toENat_eq_zero] at empty ⊢
    rw [empty] at least
    exact le_zero_iff.1 least

/-- The bounds of an extent that says more leave no more room. -/
theorem refines_ofExtent {first second : Extent} (refines : first.Refines second) :
    (ofExtent first).Refines (ofExtent second) where
  upper := UpperBound.lift_le_lift refines.empty
  upperComplement := UpperBound.lift_le_lift refines.full
  lower := by
    apply LowerBound.lift_le_lift
    rw [decide_eq_true_eq, decide_eq_true_eq, lift_eq_atMost_zero, lift_eq_atMost_zero]
    exact refines.full
  lowerComplement := by
    apply LowerBound.lift_le_lift
    rw [decide_eq_true_eq, decide_eq_true_eq, lift_eq_atMost_zero, lift_eq_atMost_zero]
    exact refines.empty

section

variable {ι : Type} {operands : List ι} {first second : ι → Bounds}

/-- Intersections of fitting operands are refined where the operands are. -/
theorem refines_intersection (fit : Fit (operands.map first)) (fit' : Fit (operands.map second))
    (refines : ∀ operand ∈ operands, (first operand).Refines (second operand)) :
    (intersection (operands.map first)).Refines (intersection (operands.map second)) where
  upper := by
    refine UpperBound.toENat_le_toENat.1 (UpperBound.le_toENat_leastOf.2 fun bound mem => ?_)
    obtain ⟨known, within, rfl⟩ := List.mem_map.1 mem
    obtain ⟨operand, member, rfl⟩ := List.mem_map.1 within
    have least : (intersection (operands.map first)).upper.toENat ≤ (first operand).upper.toENat :=
      UpperBound.le_toENat_leastOf.1 le_rfl _ (List.mem_map_of_mem (List.mem_map_of_mem member))
    exact least.trans (UpperBound.toENat_le_toENat.2 (refines operand member).upper)
  upperComplement := by
    rw [← UpperBound.toENat_le_toENat, fit.toENat_upperComplement, fit'.toENat_upperComplement,
      List.map_map, List.map_map]
    exact List.sum_le_sum fun operand mem =>
      UpperBound.toENat_le_toENat.2 (refines operand mem).upperComplement
  lower := by
    rw [← LowerBound.toENat_le_toENat, fit.toENat_lower, fit'.toENat_lower, List.map_map,
      List.map_map]
    apply LowerBound.exactIntersection_mono
    rw [List.forall₂_map_left_iff, List.forall₂_map_right_iff, List.forall₂_same]
    exact fun operand mem => ⟨(refines operand mem).lower, (refines operand mem).upperComplement⟩
  lowerComplement := by
    refine LowerBound.toENat_le_toENat.1 (LowerBound.toENat_greatestOf_le.2 fun bound mem => ?_)
    obtain ⟨known, within, rfl⟩ := List.mem_map.1 mem
    obtain ⟨operand, member, rfl⟩ := List.mem_map.1 within
    have greatest : (first operand).lowerComplement.toENat ≤
        (intersection (operands.map first)).lowerComplement.toENat :=
      LowerBound.toENat_greatestOf_le.1 le_rfl _
        (List.mem_map_of_mem (List.mem_map_of_mem member))
    exact (LowerBound.toENat_le_toENat.2 (refines operand member).lowerComplement).trans greatest

/-- Unions of fitting operands are refined where the operands are. -/
theorem refines_union (fit : Fit (operands.map first)) (fit' : Fit (operands.map second))
    (refines : ∀ operand ∈ operands, (first operand).Refines (second operand)) :
    (union (operands.map first)).Refines (union (operands.map second)) := by
  have complements := fit.complement
  have complements' := fit'.complement
  rw [List.map_map] at complements complements'
  rw [union_eq_complement, union_eq_complement, List.map_map, List.map_map]
  exact (refines_intersection complements complements' fun operand mem =>
    (refines operand mem).complement).complement

end

end Bounds

end OntologyModules
