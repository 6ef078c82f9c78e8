import OntologyModules.Locality.Filler
import OntologyModules.Proofs.Locality.Consistency

/-!
# The bounds of fillers

A restriction is built from its filler alone, given or not: all that the bounds of the restriction
depend on are the extent of its property and the bounds of its filler (`Filler.bounds_restrict`).
Whatever the filler, its four bounds do not contradict each other
(`Filler.bounds_never_contradict`).
-/

namespace OntologyModules

/-- A lower bound that is at most one is zero or one. -/
theorem LowerBound.eq_zero_or_eq_one {bound : LowerBound} (single : bound.toENat ≤ 1) :
    bound = ⟨0⟩ ∨ bound = ⟨1⟩ := by
  have least : bound.number.toNat ≤ 1 := Nat.cast_le.1 single
  have word : bound.number.toNat = 0 ∨ bound.number.toNat = 1 := by omega
  refine word.imp (fun zero => ?_) fun one => ?_
  · rw [mk.injEq, ← UInt32.toNat_inj, zero]
    rfl
  · rw [mk.injEq, ← UInt32.toNat_inj, one]
    rfl

namespace Filler

/-- What is outside the filler; there is no complement of a filler that is not written. -/
def complement : Filler → Filler
  | ofClass expression => ofClass (.complement expression)
  | ofRange range => ofRange (.complement range)
  | thing => ofClass (.complement .thing)
  | literal => ofRange (.complement .literal)

/-- The restriction of a property to the filler. Only a limit can leave its filler out. -/
def restrict (quantifier : Quantifier) (property : Property) : Filler → ClassExpression
  | ofClass expression => .object quantifier property expression
  | ofRange range => .data quantifier property range
  | thing =>
    match quantifier with
    | .count limit => .objectCount limit property
    | _ => .object quantifier property .thing
  | literal =>
    match quantifier with
    | .count limit => .dataCount limit property
    | _ => .data quantifier property .literal

variable (signature : Signature)

/-- The bounds of a filler's complement are the complemented bounds. -/
theorem bounds_complement (filler : Filler) :
    filler.complement.bounds signature = (filler.bounds signature).complement := by
  cases filler <;> rfl

/-- The bounds of a restriction come from the property and from the bounds of the filler. -/
theorem bounds_restrict (quantifier : Quantifier) (property : Property) (filler : Filler) :
    (filler.restrict quantifier property).bounds signature =
      quantifier.bounds (property.extent signature) (filler.bounds signature) := by
  cases filler with
  | ofClass expression => rfl
  | ofRange range => rfl
  | thing => cases quantifier <;> rfl
  | literal => cases quantifier <;> rfl

/-- The bounds of a filler are consistent. -/
theorem consistent_bounds (filler : Filler) : (filler.bounds signature).Consistent := by
  cases filler with
  | ofClass expression => exact expression.consistent_bounds signature
  | ofRange range => exact range.consistent_bounds
  | thing => exact ClassExpression.consistent_bounds signature .thing
  | literal => exact Bounds.consistent_datatypeBounds true

/-- The four bounds of a filler never contradict each other: a lower bound is zero or one, it
does not exceed the upper bound of the same set, and what is known to be empty has a complement
of which no limit is known. -/
theorem bounds_never_contradict (filler : Filler) :
    ((filler.bounds signature).lower = ⟨0⟩ ∨ (filler.bounds signature).lower = ⟨1⟩) ∧
    ((filler.bounds signature).lowerComplement = ⟨0⟩ ∨
      (filler.bounds signature).lowerComplement = ⟨1⟩) ∧
    .atMost (filler.bounds signature).lower.number ≤ (filler.bounds signature).upper ∧
    .atMost (filler.bounds signature).lowerComplement.number ≤
      (filler.bounds signature).upperComplement ∧
    ((filler.bounds signature).upper = .atMost 0 →
      (filler.bounds signature).upperComplement = .unbounded) ∧
    ((filler.bounds signature).upperComplement = .atMost 0 →
      (filler.bounds signature).upper = .unbounded) := by
  have consistent := filler.consistent_bounds signature
  refine ⟨LowerBound.eq_zero_or_eq_one consistent.lower_le_one,
    LowerBound.eq_zero_or_eq_one consistent.lowerComplement_le_one, ?_, ?_, fun empty => ?_,
    fun full => ?_⟩
  · exact UpperBound.toENat_le_toENat.1 consistent.lower_le_upper
  · exact UpperBound.toENat_le_toENat.1 consistent.lowerComplement_le_upperComplement
  · exact UpperBound.toENat_eq_top.1
      (consistent.unbounded_of_empty (UpperBound.toENat_eq_zero.2 empty))
  · exact UpperBound.toENat_eq_top.1
      (consistent.unbounded_of_full (UpperBound.toENat_eq_zero.2 full))

/-- At the greatest count, which has no successor, a limit that nothing exceeds is known to be
full, and the intersection of its complement with an enumeration is known to be empty. -/
theorem bounds_never_contradict_at_greatest_count :
    ((ofClass (.object (.count (.atMost 4294967295)) (.object "r") (.oneOf ["a", "b"]))).bounds
      (.ofFlavour .top)).upper = .unbounded ∧
    ((ofClass (.intersection [.oneOf ["a"], .complement (.object (.count (.atMost 4294967295))
      (.object "r") (.oneOf ["a", "b"]))])).bounds (.ofFlavour .top)).upperComplement =
        .unbounded := by
  obtain ⟨-, -, -, -, -, full⟩ := bounds_never_contradict (.ofFlavour .top)
    (ofClass (.object (.count (.atMost 4294967295)) (.object "r") (.oneOf ["a", "b"])))
  obtain ⟨-, -, -, -, empty, -⟩ := bounds_never_contradict (.ofFlavour .top)
    (ofClass (.intersection [.oneOf ["a"], .complement (.object (.count (.atMost 4294967295))
      (.object "r") (.oneOf ["a", "b"]))]))
  exact ⟨full (by decide +kernel), empty (by decide +kernel)⟩

end Filler

end OntologyModules
