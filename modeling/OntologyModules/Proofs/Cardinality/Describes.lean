import OntologyModules.Proofs.Cardinality.Bounds
import OntologyModules.Proofs.Semantics.Interpretation

/-!
# Sets within bounds

Extents and bounds describe sets: an extent is right about a set that is full or empty where it
says so, and bounds are right about a set whose size and whose complement's size lie within
them. Each operation on bounds is sound for the operation on sets that it stands for. For
intersections this is counting: an intersection keeps of one operand all that no complement of
the others takes (`LowerBound.exactIntersection_le_encard`).
-/

namespace OntologyModules

universe u

variable {α : Type u}

/-- The extent is right about the set. -/
structure Extent.Describes (extent : Extent) (s : Set α) : Prop where
  /-- What is said to hold of everything does. -/
  full : extent.full = true → s = Set.univ
  /-- What is said to hold of nothing does. -/
  empty : extent.empty = true → s = ∅

/-- The set and its complement are as large as the bounds say. -/
structure Bounds.Describes (bounds : Bounds) (s : Set α) : Prop where
  /-- The set has no more elements than its upper bound. -/
  upper : s.encard ≤ bounds.upper.toENat
  /-- The complement has no more elements than its upper bound. -/
  upperComplement : sᶜ.encard ≤ bounds.upperComplement.toENat
  /-- The set has no fewer elements than its lower bound. -/
  lower : bounds.lower.toENat ≤ s.encard
  /-- The complement has no fewer elements than its lower bound. -/
  lowerComplement : bounds.lowerComplement.toENat ≤ sᶜ.encard

namespace Extent

/-- Nothing is said of an unknown set. -/
theorem describes_unknown (s : Set α) : unknown.Describes s := ⟨nofun, nofun⟩

/-- Everything is full. -/
theorem describes_top : top.Describes (Set.univ : Set α) := ⟨fun _ => rfl, nofun⟩

/-- Nothing is empty. -/
theorem describes_bottom : bottom.Describes (∅ : Set α) := ⟨nofun, fun _ => rfl⟩

/-- Complementing exchanges full and empty. -/
theorem Describes.complement {extent : Extent} {s : Set α} (describes : extent.Describes s) :
    extent.complement.Describes sᶜ where
  full := fun empty => by rw [describes.empty empty, Set.compl_empty]
  empty := fun full => by rw [describes.full full, Set.compl_univ]

variable {ι : Type} {operands : List ι} {extent : ι → Extent} {set : ι → Set α}

/-- An intersection is full if all operands are, and empty if one is. -/
theorem describes_intersection
    (describes : ∀ operand ∈ operands, (extent operand).Describes (set operand)) :
    (intersection (operands.map extent)).Describes (interList (operands.map set)) where
  full := fun all => by
    refine Set.eq_univ_of_forall fun x s mem => ?_
    obtain ⟨operand, within, rfl⟩ := List.mem_map.1 mem
    have full := List.all_eq_true.1 all _ (List.mem_map_of_mem within)
    rw [(describes operand within).full full]
    trivial
  empty := fun any => by
    obtain ⟨known, mem, empty⟩ := List.any_eq_true.1 any
    obtain ⟨operand, within, rfl⟩ := List.mem_map.1 mem
    refine Set.eq_empty_of_forall_notMem fun x common => ?_
    have inside : x ∈ set operand := common _ (List.mem_map_of_mem within)
    rw [(describes operand within).empty empty] at inside
    exact inside

/-- A union is full if one operand is, and empty if all are. -/
theorem describes_union
    (describes : ∀ operand ∈ operands, (extent operand).Describes (set operand)) :
    (union (operands.map extent)).Describes (unionList (operands.map set)) := by
  rw [unionList_eq_compl, union_eq_complement, List.map_map, List.map_map]
  exact (describes_intersection fun operand within =>
    (describes operand within).complement).complement

end Extent

namespace LowerBound

/-- The set is as large as its lower bound says, and its complement as small as its upper bound. -/
def Admits (operand : LowerBound × UpperBound) (s : Set α) : Prop :=
  operand.1.toENat ≤ s.encard ∧ sᶜ.encard ≤ operand.2.toENat

section

variable {operands : List (LowerBound × UpperBound)} {sets : List (Set α)}

/-- The complement of an intersection is no larger than the complements of the sets together. -/
theorem encard_compl_interList_le (admits : List.Forall₂ Admits operands sets) :
    (interList sets)ᶜ.encard ≤ (operands.map (·.2.toENat)).sum := by
  induction admits with
  | nil => simp [interList_nil]
  | cons first _ ih =>
    rw [interList_cons, Set.compl_inter, List.map_cons, List.sum_cons]
    exact (Set.encard_union_le _ _).trans (add_le_add first.2 ih)

/-- An intersection keeps of one set all that no complement of the others takes. -/
theorem exactIntersection_le_encard (admits : List.Forall₂ Admits operands sets) :
    exactIntersection operands ≤ (interList sets).encard := by
  induction admits with
  | nil => exact zero_le
  | @cons first s rest sets known later ih =>
    rw [interList_cons, exactIntersection]
    refine max_le ?_ ?_
    · calc first.1.toENat - (rest.map (·.2.toENat)).sum
          ≤ s.encard - (interList sets)ᶜ.encard :=
            tsub_le_tsub known.1 (encard_compl_interList_le later)
        _ ≤ (s \ (interList sets)ᶜ).encard := Set.tsub_encard_le_encard_sdiff _ _
        _ = (s ∩ interList sets).encard := by rw [Set.sdiff_compl]
    · calc exactIntersection rest - first.2.toENat
          ≤ (interList sets).encard - sᶜ.encard := tsub_le_tsub ih known.2
        _ ≤ (interList sets \ sᶜ).encard := Set.tsub_encard_le_encard_sdiff _ _
        _ = (s ∩ interList sets).encard := by rw [Set.sdiff_compl, Set.inter_comm]

end

end LowerBound

namespace Bounds

/-- Complementing the set exchanges the bounds in pairs. -/
theorem Describes.complement {bounds : Bounds} {s : Set α} (describes : bounds.Describes s) :
    bounds.complement.Describes sᶜ where
  upper := describes.upperComplement
  upperComplement := by
    rw [compl_compl]
    exact describes.upper
  lower := describes.lowerComplement
  lowerComplement := by
    rw [compl_compl]
    exact describes.lower

/-- What right bounds say to be full or empty is. -/
theorem Describes.extent {bounds : Bounds} {s : Set α} (describes : bounds.Describes s) :
    bounds.extent.Describes s where
  full := fun full => by
    rw [full_extent_iff, ← UpperBound.toENat_eq_zero] at full
    have none : sᶜ.encard ≤ 0 := describes.upperComplement.trans full.le
    rwa [le_zero_iff, Set.encard_eq_zero, Set.compl_empty_iff] at none
  empty := fun empty => by
    rw [empty_extent_iff, ← UpperBound.toENat_eq_zero] at empty
    have none : s.encard ≤ 0 := describes.upper.trans empty.le
    rwa [le_zero_iff, Set.encard_eq_zero] at none

/-- In a non-empty domain the bounds of an extent are right where the extent is. -/
theorem describes_ofExtent [Nonempty α] {extent : Extent} {s : Set α}
    (describes : extent.Describes s) : (ofExtent extent).Describes s where
  upper := by
    rw [toENat_upper_ofExtent]
    split
    next empty => rw [describes.empty empty, Set.encard_empty]
    · exact le_top
  upperComplement := by
    rw [toENat_upperComplement_ofExtent]
    split
    next full => rw [describes.full full, Set.compl_univ, Set.encard_empty]
    · exact le_top
  lower := by
    rw [toENat_lower_ofExtent]
    split
    next full =>
      rw [describes.full full, Set.one_le_encard_iff_nonempty]
      exact Set.univ_nonempty
    · exact zero_le
  lowerComplement := by
    rw [toENat_lowerComplement_ofExtent]
    split
    next empty =>
      rw [describes.empty empty, Set.compl_empty, Set.one_le_encard_iff_nonempty]
      exact Set.univ_nonempty
    · exact zero_le

/-- The bounds of a datatype are right about every set that is full where the datatype is. -/
theorem describes_datatypeBounds [Nonempty α] {allLiterals : Bool} {s : Set α}
    (full : allLiterals = true → s = Set.univ) :
    (DataRange.datatypeBounds allLiterals).Describes s where
  upper := le_top
  upperComplement := le_top
  lower := by
    rw [DataRange.datatypeBounds, LowerBound.toENat_lift]
    split
    next every =>
      rw [full every, Set.one_le_encard_iff_nonempty]
      exact Set.univ_nonempty
    · exact zero_le
  lowerComplement := zero_le

/-- The bounds of an enumeration are right about the elements that its members denote. -/
theorem describes_ofMembers {β : Type} [DecidableEq β] (members : List β) (denote : β → α)
    (small : members.length ≤ Saturating.greatest) :
    (ofMembers (distinctCount members)).Describes {x | ∃ member ∈ members, denote member = x} where
  upper := by
    have covered : {x | ∃ member ∈ members, denote member = x} =
        denote '' ((distinctMembers members).toFinset : Set β) := by
      ext x
      simp [mem_distinctMembers]
    have exact : (distinctCount members).toNat = (distinctMembers members).length := by
      rw [distinctCount, Saturating.toNat_ofNat, min_eq_left]
      exact (length_distinctMembers_le members).trans small
    calc {x | ∃ member ∈ members, denote member = x}.encard
        = (denote '' ((distinctMembers members).toFinset : Set β)).encard := by rw [covered]
      _ ≤ ((distinctMembers members).toFinset : Set β).encard := Set.encard_image_le _ _
      _ = (distinctMembers members).length := by
        rw [Set.encard_coe_eq_coe_finsetCard,
          List.toFinset_card_of_nodup (nodup_distinctMembers members)]
      _ = (distinctCount members).toNat := by rw [exact]
  upperComplement := le_top
  lower := by
    simp only [ofMembers, LowerBound.toENat_lift, decide_eq_true_eq]
    split
    next positive =>
      rw [Set.one_le_encard_iff_nonempty]
      cases members with
      | nil => exact absurd positive (by simp [distinctCount, distinctMembers, Saturating.ofNat])
      | cons first rest => exact ⟨denote first, first, List.mem_cons_self, rfl⟩
    · exact zero_le
  lowerComplement := zero_le

section

variable {ι : Type} {operands : List ι} {bounds : ι → Bounds} {set : ι → Set α}

/-- Described sets are admitted by what an intersection is computed from. -/
theorem forall₂_admits
    (describes : ∀ operand ∈ operands, (bounds operand).Describes (set operand)) :
    List.Forall₂ LowerBound.Admits
      (operands.map fun operand => ((bounds operand).lower, (bounds operand).upperComplement))
      (operands.map set) := by
  rw [List.forall₂_map_left_iff, List.forall₂_map_right_iff, List.forall₂_same]
  exact fun operand mem => ⟨(describes operand mem).lower, (describes operand mem).upperComplement⟩

/-- The bounds of an intersection of fitting operands are right. -/
theorem describes_intersection (fit : Fit (operands.map bounds))
    (describes : ∀ operand ∈ operands, (bounds operand).Describes (set operand)) :
    (intersection (operands.map bounds)).Describes (interList (operands.map set)) where
  upper := by
    refine UpperBound.le_toENat_leastOf.2 fun bound mem => ?_
    obtain ⟨known, within, rfl⟩ := List.mem_map.1 mem
    obtain ⟨operand, member, rfl⟩ := List.mem_map.1 within
    have part : interList (operands.map set) ⊆ set operand :=
      fun x common => common _ (List.mem_map_of_mem member)
    exact (Set.encard_le_encard part).trans (describes operand member).upper
  upperComplement := by
    have complements := LowerBound.encard_compl_interList_le (forall₂_admits describes)
    rw [List.map_map] at complements
    rw [fit.toENat_upperComplement, List.map_map]
    exact complements
  lower := by
    rw [fit.toENat_lower, List.map_map]
    exact LowerBound.exactIntersection_le_encard (forall₂_admits describes)
  lowerComplement := by
    refine LowerBound.toENat_greatestOf_le.2 fun bound mem => ?_
    obtain ⟨known, within, rfl⟩ := List.mem_map.1 mem
    obtain ⟨operand, member, rfl⟩ := List.mem_map.1 within
    have part : (set operand)ᶜ ⊆ (interList (operands.map set))ᶜ :=
      fun x outside common => outside (common _ (List.mem_map_of_mem member))
    exact (describes operand member).lowerComplement.trans (Set.encard_le_encard part)

/-- The bounds of a union of fitting operands are right. -/
theorem describes_union (fit : Fit (operands.map bounds))
    (describes : ∀ operand ∈ operands, (bounds operand).Describes (set operand)) :
    (union (operands.map bounds)).Describes (unionList (operands.map set)) := by
  have complements := fit.complement
  rw [List.map_map] at complements
  rw [union_eq_complement, unionList_eq_compl, List.map_map, List.map_map]
  exact (describes_intersection complements fun operand member =>
    (describes operand member).complement).complement

end

end Bounds

end OntologyModules
