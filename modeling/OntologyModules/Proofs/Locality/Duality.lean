import OntologyModules.Locality
import OntologyModules.Proofs.Locality.Filler
import OntologyModules.Proofs.Syntax.Context

/-!
# Dual class expressions

The same class can be written in several ways: the complement of an intersection is the union of
the complements, to have fewer than three is to have at most two, to have exactly two is to have
at least and at most two. `ClassExpression.Dual` lists these laws. Dual class expressions have
the same four bounds and the same extent, and the bounds of a part are all that matters of it:
exchanging one class for another one with the same bounds, at any place of an axiom, never
changes whether the axiom is local (`ClassExpression.dual_interchangeable`).
-/

namespace OntologyModules

namespace Bounds

/-- Complementing bounds made of upper bounds exchanges them. -/
theorem complement_ofUpper (upper upperComplement : UpperBound) :
    (ofUpper upper upperComplement).complement = ofUpper upperComplement upper := rfl

/-- The intersection of two sets known by their extents is known by its extent. -/
theorem intersection_pair_ofExtent (first second : Extent) :
    intersection [ofExtent first, ofExtent second] = ofExtent (.intersection [first, second]) := by
  obtain ⟨full, empty⟩ := first
  obtain ⟨full', empty'⟩ := second
  cases full <;> cases empty <;> cases full' <;> cases empty' <;> rfl

end Bounds

namespace Count

variable {property : Extent} {filler : Bounds} {number : UInt32}

/-- Below the greatest count the next one is the sum, saturating or not. -/
theorem add_one_eq (room : number.toNat < Saturating.greatest) :
    (number + 1).toNat = number.toNat + 1 ∧ Saturating.add number 1 = number + 1 := by
  have word : (number + 1).toNat = number.toNat + 1 := by
    rw [Saturating.greatest] at room
    rw [UInt32.toNat_add, UInt32.toNat_one, Nat.mod_eq_of_lt (by omega)]
  refine ⟨word, UInt32.toNat_inj.1 ?_⟩
  rw [Saturating.toNat_add, UInt32.toNat_one, word, min_eq_left (by omega)]

/-- To miss a limit from below is to meet the limit from above that is one less. -/
theorem complement_bounds_atLeast (room : number.toNat < Saturating.greatest) :
    ((atLeast (number + 1)).bounds property filler).complement =
      (atMost number).bounds property filler := by
  obtain ⟨word, saturated⟩ := add_one_eq room
  have positive : number + 1 ≠ 0 := by
    intro zero
    have none := congrArg UInt32.toNat zero
    rw [word, UInt32.toNat_zero] at none
    omega
  have below : filler.upper.isLessThan (number + 1) = filler.upper.isAtMost number := by
    rw [Bool.eq_iff_iff, UpperBound.isLessThan_iff, UpperBound.isAtMost_iff, word, Nat.cast_add,
      Nat.cast_one, ENat.lt_add_one_iff (ENat.natCast_ne_top _)]
  rw [bounds, bounds, Bounds.complement_ofUpper, atLeastUpper, atLeastUpperComplement,
    if_neg positive, if_neg positive, below, atMostUpper, saturated, atMostUpperComplement]

/-- To miss a limit from above is to meet the limit from below that is one more. -/
theorem complement_bounds_atMost (room : number.toNat < Saturating.greatest) :
    ((atMost number).bounds property filler).complement =
      (atLeast (number + 1)).bounds property filler := by
  rw [← complement_bounds_atLeast room, Bounds.complement_complement]

/-- An exact limit is known to be met or missed where the limits from below and above are. -/
theorem extent_exactly :
    ((exactly number).bounds property filler).extent =
      .intersection [((atLeast number).bounds property filler).extent,
        ((atMost number).bounds property filler).extent] := by
  rw [Bounds.extent, Extent.intersection, Extent.mk.injEq]
  constructor
  · rw [Bool.eq_iff_iff, decide_eq_true_eq, List.all_cons, List.all_cons, List.all_nil,
      Bool.and_true, Bool.and_eq_true, Bounds.full_extent_iff, Bounds.full_extent_iff]
    exact UpperBound.max_eq_zero_iff
  · rw [Bool.eq_iff_iff, decide_eq_true_eq, List.any_cons, List.any_cons, List.any_nil,
      Bool.or_false, Bool.or_eq_true, Bounds.empty_extent_iff, Bounds.empty_extent_iff]
    exact UpperBound.min_eq_zero_iff

/-- To have exactly so many is to have at least and at most as many. -/
theorem bounds_exactly :
    (exactly number).bounds property filler =
      .intersection [(atLeast number).bounds property filler,
        (atMost number).bounds property filler] := by
  -- A limit has the bounds of its extent, so that the extents are all there is to compare.
  rw [@bounds_eq_ofExtent property filler (exactly number),
    @bounds_eq_ofExtent property filler (atLeast number),
    @bounds_eq_ofExtent property filler (atMost number), Bounds.intersection_pair_ofExtent,
    extent_exactly]

end Count

namespace Quantifier

variable {property : Extent} {filler : Bounds}

/-- To be related to the filler only is to be related to nothing outside it. -/
theorem bounds_universal :
    universal.bounds property filler = (Count.atMost 0).bounds property filler.complement := rfl

/-- To be related to nothing in the filler is to be related to its complement only. -/
theorem complement_bounds_existential :
    (existential.bounds property filler).complement =
      universal.bounds property filler.complement := by
  have room : (0 : UInt32).toNat < Saturating.greatest := by decide
  rw [bounds_universal, Bounds.complement_complement]
  exact Count.complement_bounds_atLeast room

/-- To be related to more than the filler is to be related to something in its complement. -/
theorem complement_bounds_universal :
    (universal.bounds property filler).complement =
      existential.bounds property filler.complement := by
  rw [← Bounds.complement_complement (existential.bounds property filler.complement),
    complement_bounds_existential, Bounds.complement_complement]

end Quantifier

namespace ClassExpression

/-- Two ways to write the same class. -/
inductive Dual : ClassExpression → ClassExpression → Prop where
  /-- What is outside of what is outside a class. -/
  | complement_complement (expression : ClassExpression) :
    Dual (.complement (.complement expression)) expression
  /-- To be outside an intersection is to be outside an operand. -/
  | complement_intersection (operands : List ClassExpression) :
    Dual (.complement (.intersection operands)) (.union (operands.map .complement))
  /-- To be outside a union is to be outside every operand. -/
  | complement_union (operands : List ClassExpression) :
    Dual (.complement (.union operands)) (.intersection (operands.map .complement))
  /-- To be related to nothing in a filler is to be related to its complement only. -/
  | complement_existential (property : Property) (filler : Filler) :
    Dual (.complement (filler.restrict .existential property))
      (filler.complement.restrict .universal property)
  /-- To be related to more than a filler is to be related to something outside it. -/
  | complement_universal (property : Property) (filler : Filler) :
    Dual (.complement (filler.restrict .universal property))
      (filler.complement.restrict .existential property)
  /-- To have fewer than the next number is to have at most that many. -/
  | complement_atLeast (number : UInt32) (room : number.toNat < Saturating.greatest)
      (property : Property) (filler : Filler) :
    Dual (.complement (filler.restrict (.count (.atLeast (number + 1))) property))
      (filler.restrict (.count (.atMost number)) property)
  /-- To have more than a number is to have at least the next one. -/
  | complement_atMost (number : UInt32) (room : number.toNat < Saturating.greatest)
      (property : Property) (filler : Filler) :
    Dual (.complement (filler.restrict (.count (.atMost number)) property))
      (filler.restrict (.count (.atLeast (number + 1))) property)
  /-- To have exactly so many is to have at least and at most as many. -/
  | exactly (number : UInt32) (property : Property) (filler : Filler) :
    Dual (filler.restrict (.count (.exactly number)) property)
      (.intersection [filler.restrict (.count (.atLeast number)) property,
        filler.restrict (.count (.atMost number)) property])
  /-- To be related to something in a filler is to have at least one there. -/
  | existential (property : Property) (filler : Filler) :
    Dual (filler.restrict .existential property)
      (filler.restrict (.count (.atLeast 1)) property)
  /-- To be related to a filler only is to have at most nothing outside it. -/
  | universal (property : Property) (filler : Filler) :
    Dual (filler.restrict .universal property)
      (filler.complement.restrict (.count (.atMost 0)) property)

variable (signature : Signature)

/-- Listed complements have the complemented bounds. -/
theorem boundsAll_map_complement (operands : List ClassExpression) :
    boundsAll signature (operands.map .complement) =
      (boundsAll signature operands).map Bounds.complement := by
  rw [boundsAll_eq_map, boundsAll_eq_map, List.map_map, List.map_map]
  rfl

variable {signature} in
/-- Dual class expressions have the same bounds. -/
theorem Dual.bounds_eq {first second : ClassExpression} (dual : Dual first second) :
    first.bounds signature = second.bounds signature := by
  cases dual with
  | complement_complement expression => rfl
  | complement_intersection operands =>
    rw [bounds, bounds, bounds, boundsAll_map_complement, Bounds.union_map_complement]
  | complement_union operands =>
    rw [bounds, bounds, bounds, boundsAll_map_complement, Bounds.intersection_map_complement]
  | complement_existential property filler =>
    rw [bounds, Filler.bounds_restrict, Filler.bounds_restrict, Filler.bounds_complement,
      Quantifier.complement_bounds_existential]
  | complement_universal property filler =>
    rw [bounds, Filler.bounds_restrict, Filler.bounds_restrict, Filler.bounds_complement,
      Quantifier.complement_bounds_universal]
  | complement_atLeast number room property filler =>
    rw [bounds, Filler.bounds_restrict, Filler.bounds_restrict]
    exact Count.complement_bounds_atLeast room
  | complement_atMost number room property filler =>
    rw [bounds, Filler.bounds_restrict, Filler.bounds_restrict]
    exact Count.complement_bounds_atMost room
  | exactly number property filler =>
    rw [bounds, boundsAll, boundsAll, boundsAll, Filler.bounds_restrict, Filler.bounds_restrict,
      Filler.bounds_restrict]
    exact Count.bounds_exactly
  | existential property filler =>
    rw [Filler.bounds_restrict, Filler.bounds_restrict]
    rfl
  | universal property filler =>
    rw [Filler.bounds_restrict, Filler.bounds_restrict, Filler.bounds_complement]
    exact Quantifier.bounds_universal

end ClassExpression

section

variable {signature : Signature} {first second : ClassExpression}
  (same : first.bounds signature = second.bounds signature)
include same

/-- Of a class within a class expression only the bounds matter for the bounds. -/
theorem ClassContext.bounds_fill (context : ClassContext) :
    (context.fill first).bounds signature = (context.fill second).bounds signature := by
  have listed (before after : List ClassExpression) {expression expression' : ClassExpression}
      (ih : expression.bounds signature = expression'.bounds signature) :
      ClassExpression.boundsAll signature (before ++ expression :: after) =
        ClassExpression.boundsAll signature (before ++ expression' :: after) := by
    rw [ClassExpression.boundsAll_eq_map, ClassExpression.boundsAll_eq_map, List.map_append,
      List.map_append, List.map_cons, List.map_cons, ih]
  induction context with
  | hole => exact same
  | complement operand ih =>
    rw [fill, fill, ClassExpression.bounds, ClassExpression.bounds, ih]
  | intersection before operand after ih =>
    rw [fill, fill, ClassExpression.bounds, ClassExpression.bounds, listed before after ih]
  | union before operand after ih =>
    rw [fill, fill, ClassExpression.bounds, ClassExpression.bounds, listed before after ih]
  | object quantifier property filler ih =>
    rw [fill, fill, ClassExpression.bounds, ClassExpression.bounds, ih]

/-- Of a class within a class expression only the bounds matter for the extent. -/
theorem ClassContext.extent_fill (context : ClassContext) :
    (context.fill first).extent signature = (context.fill second).extent signature := by
  rw [← ClassExpression.extent_bounds, ← ClassExpression.extent_bounds, context.bounds_fill same]

/-- Of a class within an axiom only the bounds matter for locality. -/
theorem AxiomContext.isLocal_fill (context : AxiomContext) :
    (context.fill first).isLocal signature = (context.fill second).isLocal signature := by
  have listed (before : List ClassExpression) (operand : ClassContext)
      (after : List ClassExpression) :
      (before ++ operand.fill first :: after).map (·.extent signature) =
        (before ++ operand.fill second :: after).map (·.extent signature) := by
    rw [List.map_append, List.map_append, List.map_cons, List.map_cons, operand.extent_fill same]
  cases context with
  | subClassOfLeft sub super =>
    rw [fill, fill, Axiom.isLocal, Axiom.isLocal, sub.extent_fill same]
  | subClassOfRight sub super =>
    rw [fill, fill, Axiom.isLocal, Axiom.isLocal, super.extent_fill same]
  | equivalentClasses before operand after =>
    rw [fill, fill, Axiom.isLocal, Axiom.isLocal, listed]
  | disjointClasses before operand after =>
    rw [fill, fill, Axiom.isLocal, Axiom.isLocal, listed]
  | disjointUnion iri before operand after =>
    rw [fill, fill, Axiom.isLocal, Axiom.isLocal, listed]
  | objectPropertyDomain property domain =>
    rw [fill, fill, Axiom.isLocal, Axiom.isLocal, domain.extent_fill same]
  | objectPropertyRange property range =>
    rw [fill, fill, Axiom.isLocal, Axiom.isLocal, range.extent_fill same]
  | dataPropertyDomain property domain =>
    rw [fill, fill, Axiom.isLocal, Axiom.isLocal, domain.extent_fill same]
  | hasKey subject properties =>
    -- No key is local, whatever the class.
    rfl
  | classAssertion subject individual =>
    rw [fill, fill, Axiom.isLocal, Axiom.isLocal, subject.extent_fill same]

end

namespace ClassExpression

/-- Dual class expressions have the same four bounds and the same extent, and class expressions
with the same bounds can be exchanged at any place of an axiom. -/
theorem dual_interchangeable (signature : Signature) :
    (∀ first second : ClassExpression, Dual first second →
      first.bounds signature = second.bounds signature ∧
        first.extent signature = second.extent signature) ∧
    ∀ (context : AxiomContext) (first second : ClassExpression),
      first.bounds signature = second.bounds signature →
        (context.fill first).isLocal signature = (context.fill second).isLocal signature := by
  refine ⟨fun first second dual => ⟨dual.bounds_eq, ?_⟩, fun context first second same => ?_⟩
  · rw [← extent_bounds, ← extent_bounds, dual.bounds_eq]
  · exact context.isLocal_fill same

/-- Not to reach the greatest count is to have at most one fewer, and in a part of a disjoint
union, below a restriction and a complement, the one can stand for the other. -/
theorem dual_interchangeable_below_greatest_count :
    (ClassExpression.complement (.object (.count (.atLeast 4294967295)) (.object "r")
        (.oneOf ["a", "b"]))).bounds (.ofFlavour .top) =
      (ClassExpression.object (.count (.atMost 4294967294)) (.object "r")
        (.oneOf ["a", "b"])).bounds (.ofFlavour .top) ∧
    (Axiom.disjointUnion "A" [.object .universal (.object "s") (.complement (.complement (.object
        (.count (.atLeast 4294967295)) (.object "r") (.oneOf ["a", "b"])))), .nothing]).isLocal
        (.ofFlavour .top) =
      (Axiom.disjointUnion "A" [.object .universal (.object "s") (.complement (.object
        (.count (.atMost 4294967294)) (.object "r") (.oneOf ["a", "b"]))), .nothing]).isLocal
        (.ofFlavour .top) := by
  obtain ⟨duals, exchange⟩ := dual_interchangeable (.ofFlavour .top)
  have dual := Dual.complement_atLeast 4294967294 (by decide) (.object "r")
    (.ofClass (.oneOf ["a", "b"]))
  have same := (duals _ _ dual).1
  exact ⟨same, exchange (.disjointUnion "A" [] (.object .universal (.object "s")
    (.complement .hole)) [.nothing]) _ _ same⟩

end ClassExpression

end OntologyModules
