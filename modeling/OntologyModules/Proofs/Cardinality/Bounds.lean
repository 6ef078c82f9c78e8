import OntologyModules.Locality.Equivalence
import OntologyModules.Proofs.Cardinality.Tally

/-!
# Bounds that go together

The four bounds of one expression are related. `Bounds.Consistent` collects what holds of all
bounds that the rules produce, whatever the size of the expression: a lower bound is zero or
one, no lower bound exceeds the upper bound of the same set, and where one of the upper bounds
is zero the other one is missing. Every rule keeps it. The bounds of names and restrictions are
all of one form, `Bounds.ofExtent`, which says of a set that it is full, empty, or neither.
-/

namespace OntologyModules

/-- Nothing is said to hold of everything and of nothing at once. -/
def Extent.Exclusive (extent : Extent) : Prop := ¬(extent.full = true ∧ extent.empty = true)

instance (extent : Extent) : Decidable extent.Exclusive := inferInstanceAs (Decidable ¬_)

namespace Extent

/-- A union is the complement of the intersection of the complements. -/
theorem union_eq_complement (operands : List Extent) :
    union operands = (intersection (operands.map complement)).complement := by
  rw [union, intersection, complement, List.all_map, List.any_map]
  rfl

/-- Complementing exchanges the two answers. -/
theorem Exclusive.complement {extent : Extent} (exclusive : extent.Exclusive) :
    extent.complement.Exclusive := fun both => exclusive both.symm

/-- An operand that makes an intersection empty is not full, so neither is the intersection. -/
theorem exclusive_intersection {operands : List Extent}
    (exclusive : ∀ operand ∈ operands, operand.Exclusive) : (intersection operands).Exclusive := by
  rintro ⟨full, empty⟩
  obtain ⟨operand, mem, operandEmpty⟩ := List.any_eq_true.1 empty
  have operandFull : operand.full = true := List.all_eq_true.1 full operand mem
  exact exclusive operand mem ⟨operandFull, operandEmpty⟩

/-- An operand that makes a union full is not empty, so neither is the union. -/
theorem exclusive_union {operands : List Extent}
    (exclusive : ∀ operand ∈ operands, operand.Exclusive) : (union operands).Exclusive := by
  rw [union_eq_complement]
  apply Exclusive.complement
  apply exclusive_intersection
  exact List.forall_mem_map.2 fun operand mem => (exclusive operand mem).complement

end Extent

namespace Bounds

/-- An intersection of complements is bounded like the complement of the union, rule by rule. -/
theorem intersection_map_complement (operands : List Bounds) :
    intersection (operands.map complement) = (union operands).complement := by
  rw [intersection, List.map_map, List.map_map, List.map_map, List.map_map]
  rfl

/-- A union of complements is bounded like the complement of the intersection, rule by rule. -/
theorem union_map_complement (operands : List Bounds) :
    union (operands.map complement) = (intersection operands).complement := by
  rw [union, List.map_map, List.map_map, List.map_map, List.map_map]
  rfl

/-- A union is bounded like the complement of the intersection of the complements. -/
theorem union_eq_complement (operands : List Bounds) :
    union operands = (intersection (operands.map complement)).complement := by
  rw [intersection_map_complement, complement_complement]

/-- The bounds of what is known to be full or empty, in a non-empty domain. -/
def ofExtent (extent : Extent) : Bounds := .ofUpper (.lift extent.empty) (.lift extent.full)

/-- A limit on condition is zero when the condition holds. -/
theorem lift_eq_atMost_zero {condition : Bool} :
    UpperBound.lift condition = .atMost 0 ↔ condition = true := by
  cases condition <;> simp [UpperBound.lift]

section

variable (extent : Extent)

/-- The upper bound is zero for what is empty. -/
theorem toENat_upper_ofExtent :
    (ofExtent extent).upper.toENat = if extent.empty = true then 0 else ⊤ :=
  UpperBound.toENat_lift _

/-- The complement's upper bound is zero for what is full. -/
theorem toENat_upperComplement_ofExtent :
    (ofExtent extent).upperComplement.toENat = if extent.full = true then 0 else ⊤ :=
  UpperBound.toENat_lift _

/-- The lower bound is one for what is full. -/
theorem toENat_lower_ofExtent :
    (ofExtent extent).lower.toENat = if extent.full = true then 1 else 0 := by
  simp only [ofExtent, ofUpper, LowerBound.toENat_lift, decide_eq_true_eq, lift_eq_atMost_zero]

/-- The complement's lower bound is one for what is empty. -/
theorem toENat_lowerComplement_ofExtent :
    (ofExtent extent).lowerComplement.toENat = if extent.empty = true then 1 else 0 := by
  simp only [ofExtent, ofUpper, LowerBound.toENat_lift, decide_eq_true_eq, lift_eq_atMost_zero]

/-- The extent is read back from the bounds made of it. -/
theorem extent_ofExtent : (ofExtent extent).extent = extent := by
  obtain ⟨full, empty⟩ := extent
  cases full <;> cases empty <;> rfl

end

/-- Bounds say that a set is full when they leave nothing to its complement. -/
theorem full_extent_iff {bounds : Bounds} :
    bounds.extent.full = true ↔ bounds.upperComplement = .atMost 0 := decide_eq_true_iff

/-- Bounds say that a set is empty when they leave nothing to it. -/
theorem empty_extent_iff {bounds : Bounds} :
    bounds.extent.empty = true ↔ bounds.upper = .atMost 0 := decide_eq_true_iff

/-- The extent of complemented bounds is complemented. -/
theorem extent_complement (bounds : Bounds) : bounds.complement.extent = bounds.extent.complement :=
  rfl

/-- An intersection is said to be full or empty as the extents of its operands say. -/
theorem extent_intersection (operands : List Bounds) :
    (intersection operands).extent = .intersection (operands.map extent) := by
  rw [Extent.intersection, List.all_map, List.any_map, extent, Extent.mk.injEq]
  constructor
  · rw [Bool.eq_iff_iff, decide_eq_true_eq, List.all_eq_true, intersection,
      UpperBound.sumAll_eq_zero_iff, List.forall_mem_map]
    simp only [Function.comp_apply, full_extent_iff]
  · rw [Bool.eq_iff_iff, decide_eq_true_eq, List.any_eq_true, intersection,
      UpperBound.leastOf_eq_zero_iff, List.mem_map]
    simp only [Function.comp_apply, empty_extent_iff]

/-- A union is said to be full or empty as the extents of its operands say. -/
theorem extent_union (operands : List Bounds) :
    (union operands).extent = .union (operands.map extent) := by
  rw [union_eq_complement, extent_complement, extent_intersection, Extent.union_eq_complement,
    List.map_map, List.map_map]
  rfl

/-- An enumeration is said to be empty when it has no members, and never to be full. -/
theorem extent_ofMembers {α : Type} [DecidableEq α] (members : List α) :
    (ofMembers (distinctCount members)).extent = ⟨false, members.isEmpty⟩ := by
  have positive (first : α) (rest : List α) : distinctMembers (first :: rest) ≠ [] :=
    List.ne_nil_of_mem (mem_distinctMembers.2 List.mem_cons_self)
  cases members with
  | nil => rfl
  | cons first rest =>
    have few := List.length_pos_iff.2 (positive first rest)
    have count : distinctCount (first :: rest) ≠ 0 := by
      intro zero
      have none := congrArg UInt32.toNat zero
      rw [distinctCount, Saturating.toNat_ofNat, Saturating.greatest, UInt32.toNat_zero] at none
      omega
    simp [extent, ofMembers, count]

/-- What the rules make sure of for the four bounds of one expression. -/
structure Consistent (bounds : Bounds) : Prop where
  /-- One element is all that is ever claimed. -/
  lower_le_one : bounds.lower.toENat ≤ 1
  /-- One element of the complement is all that is ever claimed. -/
  lowerComplement_le_one : bounds.lowerComplement.toENat ≤ 1
  /-- The set's bounds leave room between them. -/
  lower_le_upper : bounds.lower.toENat ≤ bounds.upper.toENat
  /-- The complement's bounds leave room between them. -/
  lowerComplement_le_upperComplement :
    bounds.lowerComplement.toENat ≤ bounds.upperComplement.toENat
  /-- Of the complement of an empty set no limit is known. -/
  unbounded_of_empty : bounds.upper.toENat = 0 → bounds.upperComplement.toENat = ⊤
  /-- Of a set with an empty complement no limit is known. -/
  unbounded_of_full : bounds.upperComplement.toENat = 0 → bounds.upper.toENat = ⊤

/-- The complement of a consistently bounded set is one. -/
theorem Consistent.complement {bounds : Bounds} (consistent : bounds.Consistent) :
    bounds.complement.Consistent where
  lower_le_one := consistent.lowerComplement_le_one
  lowerComplement_le_one := consistent.lower_le_one
  lower_le_upper := consistent.lowerComplement_le_upperComplement
  lowerComplement_le_upperComplement := consistent.lower_le_upper
  unbounded_of_empty := consistent.unbounded_of_full
  unbounded_of_full := consistent.unbounded_of_empty

/-- Consistent bounds never say that a set is full and empty at once. -/
theorem Consistent.exclusive_extent {bounds : Bounds} (consistent : bounds.Consistent) :
    bounds.extent.Exclusive := by
  rintro ⟨full, empty⟩
  rw [full_extent_iff, ← UpperBound.toENat_eq_zero] at full
  rw [empty_extent_iff, ← UpperBound.toENat_eq_zero] at empty
  have unbounded := consistent.unbounded_of_empty empty
  rw [full] at unbounded
  simp at unbounded

/-- Bounds of an extent are consistent unless it is said to be full and empty at once. -/
theorem consistent_ofExtent {extent : Extent} (exclusive : extent.Exclusive) :
    (ofExtent extent).Consistent := by
  obtain ⟨full, empty⟩ := extent
  cases full <;> cases empty <;> constructor <;>
    simp_all [Extent.Exclusive, toENat_upper_ofExtent, toENat_upperComplement_ofExtent,
      toENat_lower_ofExtent, toENat_lowerComplement_ofExtent]

/-- Bounds of an enumeration are consistent. -/
theorem consistent_ofMembers (distinct : UInt32) : (ofMembers distinct).Consistent where
  lower_le_one := by
    rw [ofMembers, LowerBound.toENat_lift]
    split <;> simp
  lowerComplement_le_one := by simp [ofMembers, LowerBound.zero, LowerBound.toENat]
  lower_le_upper := by
    simp only [ofMembers, LowerBound.toENat_lift, decide_eq_true_eq]
    split
    next positive =>
      rw [UpperBound.toENat, ← Nat.cast_one, Nat.cast_le]
      exact UInt32.lt_iff_toNat_lt.1 positive
    · exact zero_le
  lowerComplement_le_upperComplement := by simp [ofMembers, LowerBound.zero, LowerBound.toENat]
  unbounded_of_empty := fun _ => rfl
  unbounded_of_full := fun zero => absurd zero (by simp [ofMembers, UpperBound.toENat])

/-- Bounds of a datatype are consistent. -/
theorem consistent_datatypeBounds (allLiterals : Bool) :
    (DataRange.datatypeBounds allLiterals).Consistent := by
  cases allLiterals <;> constructor <;>
    simp [DataRange.datatypeBounds, LowerBound.lift, LowerBound.zero, LowerBound.toENat,
      UpperBound.toENat]

/-- The intersection of consistently bounded sets is consistently bounded. -/
theorem consistent_intersection {operands : List Bounds}
    (consistent : ∀ operand ∈ operands, operand.Consistent) :
    (intersection operands).Consistent where
  lower_le_one := by
    refine LowerBound.ofIntersection_le fun pair mem => ?_
    obtain ⟨operand, within, rfl⟩ := List.mem_map.1 mem
    exact (consistent operand within).lower_le_one
  lowerComplement_le_one := by
    refine LowerBound.toENat_greatestOf_le.2 fun bound mem => ?_
    obtain ⟨operand, within, rfl⟩ := List.mem_map.1 mem
    exact (consistent operand within).lowerComplement_le_one
  lower_le_upper := by
    refine UpperBound.le_toENat_leastOf.2 fun bound mem => ?_
    obtain ⟨operand, within, rfl⟩ := List.mem_map.1 mem
    have known := consistent operand within
    by_cases empty : operand.upper.toENat = 0
    · -- An empty operand has an unbounded complement and nothing to subtract from.
      have complement := UpperBound.toENat_eq_top.1 (known.unbounded_of_empty empty)
      have unbounded : (operand.lower, UpperBound.unbounded) ∈
          operands.map fun operand => (operand.lower, operand.upperComplement) :=
        List.mem_map.2 ⟨operand, within, by rw [complement]⟩
      exact (LowerBound.ofIntersection_le_of_unbounded unbounded).trans known.lower_le_upper
    · have single : (intersection operands).lower.toENat ≤ 1 := by
        refine LowerBound.ofIntersection_le fun pair mem => ?_
        obtain ⟨other, within, rfl⟩ := List.mem_map.1 mem
        exact (consistent other within).lower_le_one
      exact single.trans (Order.one_le_iff_ne_zero.2 empty)
  lowerComplement_le_upperComplement := by
    refine LowerBound.toENat_greatestOf_le.2 fun bound mem => ?_
    obtain ⟨operand, within, rfl⟩ := List.mem_map.1 mem
    exact (consistent operand within).lowerComplement_le_upperComplement.trans
      (UpperBound.toENat_le_sumAll (List.mem_map_of_mem within))
  unbounded_of_empty := fun zero => by
    have mem := UpperBound.leastOf_eq_zero_iff.1 (UpperBound.toENat_eq_zero.1 zero)
    obtain ⟨operand, within, empty⟩ := List.mem_map.1 mem
    have unbounded := (consistent operand within).unbounded_of_empty
      (UpperBound.toENat_eq_zero.2 empty)
    exact top_le_iff.1 (unbounded.ge.trans
      (UpperBound.toENat_le_sumAll (List.mem_map_of_mem within)))
  unbounded_of_full := fun zero => by
    refine top_le_iff.1 (UpperBound.le_toENat_leastOf.2 fun bound mem => ?_)
    obtain ⟨operand, within, rfl⟩ := List.mem_map.1 mem
    have part : operand.upperComplement.toENat ≤ (intersection operands).upperComplement.toENat :=
      UpperBound.toENat_le_sumAll (List.mem_map_of_mem within)
    rw [zero] at part
    exact ((consistent operand within).unbounded_of_full (le_zero_iff.1 part)).ge

/-- The union of consistently bounded sets is consistently bounded. -/
theorem consistent_union {operands : List Bounds}
    (consistent : ∀ operand ∈ operands, operand.Consistent) : (union operands).Consistent := by
  rw [union_eq_complement]
  refine (consistent_intersection fun bounds mem => ?_).complement
  obtain ⟨operand, within, rfl⟩ := List.mem_map.1 mem
  exact (consistent operand within).complement

/-- The upper bounds claim no more elements than so many listed members account for. -/
structure Within (bounds : Bounds) (size : Nat) : Prop where
  /-- The limit of the set. -/
  upper_le : bounds.upper.amount ≤ size
  /-- The limit of the complement. -/
  upperComplement_le : bounds.upperComplement.amount ≤ size

/-- The complement is accounted for by the same members. -/
theorem Within.complement {bounds : Bounds} {size : Nat} (within : bounds.Within size) :
    bounds.complement.Within size := ⟨within.upperComplement_le, within.upper_le⟩

/-- Bounds of an extent need no members. -/
theorem within_ofExtent (extent : Extent) (size : Nat) : (ofExtent extent).Within size := by
  obtain ⟨full, empty⟩ := extent
  cases full <;> cases empty <;> exact ⟨Nat.zero_le size, Nat.zero_le size⟩

/-- Bounds that are those of an extent need no members. -/
theorem within_of_eq_ofExtent {bounds : Bounds} {extent : Extent} (same : bounds = ofExtent extent)
    (size : Nat) : bounds.Within size := by
  rw [same]
  exact within_ofExtent extent size

/-- Bounds of a datatype need no members. -/
theorem within_datatypeBounds (allLiterals : Bool) (size : Nat) :
    (DataRange.datatypeBounds allLiterals).Within size := ⟨Nat.zero_le size, Nat.zero_le size⟩

/-- A list has no more different members than members. -/
theorem length_distinctMembers_le {α : Type} [DecidableEq α] (members : List α) :
    (distinctMembers members).length ≤ members.length := by
  induction members with
  | nil => exact le_rfl
  | cons first rest ih =>
    rw [distinctMembers]
    split
    · exact ih.trans (Nat.le_succ _)
    · exact Nat.succ_le_succ ih

/-- Bounds of an enumeration are accounted for by its members. -/
theorem within_ofMembers {α : Type} [DecidableEq α] (members : List α) :
    (ofMembers (distinctCount members)).Within members.length where
  upper_le := by
    rw [ofMembers, UpperBound.amount, distinctCount, Saturating.toNat_ofNat]
    exact (min_le_left _ _).trans (length_distinctMembers_le members)
  upperComplement_le := Nat.zero_le _

section

variable {ι : Type} {operands : List ι} {bounds : ι → Bounds} {size : ι → Nat}

/-- An intersection is accounted for by the members of all its operands. -/
theorem within_intersection
    (within : ∀ operand ∈ operands, (bounds operand).Within (size operand)) :
    (intersection (operands.map bounds)).Within (operands.map size).sum where
  upper_le := by
    refine (UpperBound.amount_leastOf_le _).trans ?_
    rw [List.map_map, List.map_map]
    exact List.sum_le_sum fun operand mem => (within operand mem).upper_le
  upperComplement_le := by
    refine (UpperBound.amount_sumAll_le _).trans ?_
    rw [List.map_map, List.map_map]
    exact List.sum_le_sum fun operand mem => (within operand mem).upperComplement_le

/-- A union is accounted for by the members of all its operands. -/
theorem within_union (within : ∀ operand ∈ operands, (bounds operand).Within (size operand)) :
    (union (operands.map bounds)).Within (operands.map size).sum := by
  rw [union_eq_complement, List.map_map]
  exact (within_intersection fun operand mem => (within operand mem).complement).complement

end

/-- Operands whose bounds can be summed up without saturating. -/
structure Fit (operands : List Bounds) : Prop where
  /-- Each operand claims one element at most. -/
  consistent : ∀ operand ∈ operands, operand.Consistent
  /-- The limits of the operands can be summed up. -/
  upper_fits : (operands.map (·.upper.amount)).sum < Saturating.greatest
  /-- The limits of the complements can be summed up. -/
  upperComplement_fits : (operands.map (·.upperComplement.amount)).sum < Saturating.greatest

namespace Fit

/-- The complements fit as well. -/
theorem complement {operands : List Bounds} (fit : Fit operands) :
    Fit (operands.map Bounds.complement) where
  consistent := fun bounds mem => by
    obtain ⟨operand, within, rfl⟩ := List.mem_map.1 mem
    exact (fit.consistent operand within).complement
  upper_fits := by
    rw [List.map_map]
    exact fit.upperComplement_fits
  upperComplement_fits := by
    rw [List.map_map]
    exact fit.upper_fits

/-- Operands that few enough members account for fit. -/
theorem of_within {ι : Type} {operands : List ι} {bounds : ι → Bounds} {size : ι → Nat}
    (consistent : ∀ operand ∈ operands, (bounds operand).Consistent)
    (within : ∀ operand ∈ operands, (bounds operand).Within (size operand))
    (small : (operands.map size).sum < Saturating.greatest) : Fit (operands.map bounds) where
  consistent := fun known mem => by
    obtain ⟨operand, member, rfl⟩ := List.mem_map.1 mem
    exact consistent operand member
  upper_fits := by
    refine lt_of_le_of_lt ?_ small
    rw [List.map_map]
    exact List.sum_le_sum fun operand mem => (within operand mem).upper_le
  upperComplement_fits := by
    refine lt_of_le_of_lt ?_ small
    rw [List.map_map]
    exact List.sum_le_sum fun operand mem => (within operand mem).upperComplement_le

/-- The complement's limit of an intersection is the sum of the complements' limits. -/
theorem toENat_upperComplement {operands : List Bounds} (fit : Fit operands) :
    (intersection operands).upperComplement.toENat =
      (operands.map (·.upperComplement.toENat)).sum := by
  rw [intersection, UpperBound.toENat_sumAll, List.map_map]
  · rfl
  · rw [List.map_map]
    exact fit.upperComplement_fits.le

/-- No sum over the operands saturates. -/
theorem unsaturated {operands : List Bounds} (fit : Fit operands) :
    LowerBound.Unsaturated
      (operands.map fun operand => (operand.lower, operand.upperComplement)) where
  total := by
    rw [List.map_map]
    exact fit.upperComplement_fits.le
  scores := fun pair mem => by
    obtain ⟨operand, within, rfl⟩ := List.mem_map.1 mem
    have single : operand.lower.number.toNat ≤ 1 :=
      Nat.cast_le.1 (fit.consistent operand within).lower_le_one
    have part : operand.upperComplement.amount ≤ (operands.map (·.upperComplement.amount)).sum :=
      List.le_sum_of_mem (List.mem_map_of_mem within)
    have total := fit.upperComplement_fits
    dsimp only
    omega

/-- The lower bound of an intersection is the exact one. -/
theorem toENat_lower {operands : List Bounds} (fit : Fit operands) :
    (intersection operands).lower.toENat = LowerBound.exactIntersection
      (operands.map fun operand => (operand.lower, operand.upperComplement)) :=
  fit.unsaturated.toENat_ofIntersection

end Fit

end Bounds

end OntologyModules
