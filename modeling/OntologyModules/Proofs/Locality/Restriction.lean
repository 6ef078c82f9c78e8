import OntologyModules.Proofs.Cardinality.Describes

/-!
# Restrictions decided from their parts

A restriction is sure to be met by everything, or sure to be missed, by what is known of its
property and of its filler. The two conditions are written here as inequalities between the
number asked for and the filler's bounds, and they are what the rules for upper bounds compute
(`Quantifier.full_iff`, `Quantifier.empty_iff`). They exclude each other for consistent bounds,
and they are right about every relation and filler that are as described
(`Quantifier.describes`).
-/

namespace OntologyModules

universe u v

namespace UpperBound

/-- The bound is zero or missing, as that of a restriction is. -/
def AllOrNothing (bound : UpperBound) : Prop := bound = .atMost 0 ∨ bound = .unbounded

/-- A bound on condition is zero or missing. -/
theorem allOrNothing_lift (condition : Bool) : (lift condition).AllOrNothing := by
  cases condition
  · exact .inr rfl
  · exact .inl rfl

/-- The lesser of two such bounds is one of them. -/
theorem AllOrNothing.min {first second : UpperBound} (left : first.AllOrNothing)
    (right : second.AllOrNothing) : (min first second).AllOrNothing := by
  change (if first ≤ second then first else second).AllOrNothing
  split
  · exact left
  · exact right

/-- The greater of two such bounds is one of them. -/
theorem AllOrNothing.max {first second : UpperBound} (left : first.AllOrNothing)
    (right : second.AllOrNothing) : (max first second).AllOrNothing := by
  change (if first ≤ second then second else first).AllOrNothing
  split
  · exact right
  · exact left

end UpperBound

namespace Bounds

/-- Bounds made of upper bounds that are zero or missing are those of their extent. -/
theorem ofUpper_eq_ofExtent {upper upperComplement : UpperBound} (set : upper.AllOrNothing)
    (complement : upperComplement.AllOrNothing) :
    ofUpper upper upperComplement = ofExtent (ofUpper upper upperComplement).extent := by
  rcases set with rfl | rfl <;> rcases complement with rfl | rfl <;> rfl

end Bounds

namespace Count

/-- Whether everything is sure to have so many related things in the filler. -/
def EnoughForAll (property : Extent) (filler : Bounds) (number : UInt32) : Prop :=
  number = 0 ∨ property.full = true ∧ (number.toNat : ℕ∞) ≤ filler.lower.toENat

/-- Whether everything is sure to have fewer related things in the filler. -/
def TooFewForAll (property : Extent) (filler : Bounds) (number : UInt32) : Prop :=
  number ≠ 0 ∧ (property.empty = true ∨ filler.upper.toENat < number.toNat)

/-- Whether everything is sure to have no more related things in the filler. -/
def FewEnoughForAll (property : Extent) (filler : Bounds) (number : UInt32) : Prop :=
  property.empty = true ∨ filler.upper.toENat ≤ number.toNat

/-- Whether everything is sure to have more related things in the filler. -/
def TooManyForAll (property : Extent) (filler : Bounds) (number : UInt32) : Prop :=
  property.full = true ∧ (number.toNat : ℕ∞) < filler.lower.toENat

/-- Whether everything is sure to meet the limit. -/
def SurelyMet (property : Extent) (filler : Bounds) : Count → Prop
  | atLeast number => EnoughForAll property filler number
  | atMost number => FewEnoughForAll property filler number
  | exactly number => EnoughForAll property filler number ∧ FewEnoughForAll property filler number

/-- Whether everything is sure to miss the limit. -/
def SurelyMissed (property : Extent) (filler : Bounds) : Count → Prop
  | atLeast number => TooFewForAll property filler number
  | atMost number => TooManyForAll property filler number
  | exactly number => TooFewForAll property filler number ∨ TooManyForAll property filler number

section

variable {property : Extent} {filler : Bounds} {number : UInt32}

/-- The rule for too few related things computes zero when all have too few. -/
theorem atLeastUpper_eq_zero_iff :
    atLeastUpper property filler number = .atMost 0 ↔ TooFewForAll property filler number := by
  unfold atLeastUpper TooFewForAll
  by_cases zero : number = 0
  · simp [zero]
  · rw [if_neg zero, Bounds.lift_eq_atMost_zero, Bool.or_eq_true, UpperBound.isLessThan_iff]
    exact (and_iff_right zero).symm

/-- The rule for the complement of enough related things computes zero when all have enough. -/
theorem atLeastUpperComplement_eq_zero_iff :
    atLeastUpperComplement property filler number = .atMost 0 ↔
      EnoughForAll property filler number := by
  unfold atLeastUpperComplement EnoughForAll
  by_cases zero : number = 0
  · simp [zero]
  · rw [if_neg zero, Bounds.lift_eq_atMost_zero, Bool.and_eq_true, LowerBound.isAtLeast_iff]
    exact (or_iff_right zero).symm

/-- A lower bound of one at most exceeds a count when it reaches its saturated successor. -/
theorem isAtLeast_add_one_iff (single : filler.lower.toENat ≤ 1) :
    filler.lower.isAtLeast (Saturating.add number 1) = true ↔
      (number.toNat : ℕ∞) < filler.lower.toENat := by
  have least : filler.lower.number.toNat ≤ 1 := Nat.cast_le.1 single
  have next : (Saturating.add number 1).toNat = min (number.toNat + 1) Saturating.greatest :=
    Saturating.toNat_add number 1
  rw [LowerBound.isAtLeast_iff, LowerBound.toENat, Nat.cast_le, Nat.cast_lt, next,
    Saturating.greatest]
  omega

/-- The rule for few enough related things computes zero when all have too many. -/
theorem atMostUpper_eq_zero_iff (single : filler.lower.toENat ≤ 1) :
    atMostUpper property filler number = .atMost 0 ↔ TooManyForAll property filler number := by
  rw [atMostUpper, Bounds.lift_eq_atMost_zero, Bool.and_eq_true, isAtLeast_add_one_iff single,
    TooManyForAll]

/-- The rule for the complement of few enough computes zero when all have few enough. -/
theorem atMostUpperComplement_eq_zero_iff :
    atMostUpperComplement property filler number = .atMost 0 ↔
      FewEnoughForAll property filler number := by
  rw [atMostUpperComplement, Bounds.lift_eq_atMost_zero, Bool.or_eq_true,
    UpperBound.isAtMost_iff, FewEnoughForAll]

/-- Nobody surely has enough and too few. -/
theorem not_enoughForAll_and_tooFewForAll (exclusive : property.Exclusive)
    (room : filler.lower.toENat ≤ filler.upper.toENat) :
    ¬(EnoughForAll property filler number ∧ TooFewForAll property filler number) := by
  rintro ⟨zero | ⟨full, many⟩, positive, empty | few⟩
  · exact positive zero
  · exact positive zero
  · exact exclusive ⟨full, empty⟩
  · exact absurd (many.trans room) (not_le.2 few)

/-- Nobody surely has few enough and too many. -/
theorem not_fewEnoughForAll_and_tooManyForAll (exclusive : property.Exclusive)
    (room : filler.lower.toENat ≤ filler.upper.toENat) :
    ¬(FewEnoughForAll property filler number ∧ TooManyForAll property filler number) := by
  rintro ⟨empty | few, full, many⟩
  · exact exclusive ⟨full, empty⟩
  · exact absurd (room.trans few) (not_le.2 many)

end

section

variable {property : Extent} {filler : Bounds} {limit : Count}

/-- The rules say of a limit that everything meets it when everything surely does. -/
theorem full_iff :
    (limit.bounds property filler).extent.full = true ↔ limit.SurelyMet property filler := by
  rw [Bounds.full_extent_iff]
  cases limit with
  | atLeast number => exact atLeastUpperComplement_eq_zero_iff
  | atMost number => exact atMostUpperComplement_eq_zero_iff
  | exactly number =>
    rw [SurelyMet, ← atLeastUpperComplement_eq_zero_iff, ← atMostUpperComplement_eq_zero_iff]
    exact UpperBound.max_eq_zero_iff

/-- The rules say of a limit that nothing meets it when everything surely misses it. -/
theorem empty_iff (single : filler.lower.toENat ≤ 1) :
    (limit.bounds property filler).extent.empty = true ↔ limit.SurelyMissed property filler := by
  rw [Bounds.empty_extent_iff]
  cases limit with
  | atLeast number => exact atLeastUpper_eq_zero_iff
  | atMost number => exact atMostUpper_eq_zero_iff single
  | exactly number =>
    rw [SurelyMissed, ← atLeastUpper_eq_zero_iff, ← atMostUpper_eq_zero_iff single]
    exact UpperBound.min_eq_zero_iff

/-- No limit is surely met and surely missed. -/
theorem not_surelyMet_and_surelyMissed (exclusive : property.Exclusive)
    (room : filler.lower.toENat ≤ filler.upper.toENat) :
    ¬(limit.SurelyMet property filler ∧ limit.SurelyMissed property filler) := by
  cases limit with
  | atLeast number => exact not_enoughForAll_and_tooFewForAll exclusive room
  | atMost number => exact not_fewEnoughForAll_and_tooManyForAll exclusive room
  | exactly number =>
    rintro ⟨⟨enough, fewEnough⟩, tooFew | tooMany⟩
    · exact not_enoughForAll_and_tooFewForAll exclusive room ⟨enough, tooFew⟩
    · exact not_fewEnoughForAll_and_tooManyForAll exclusive room ⟨fewEnough, tooMany⟩

/-- The bounds of a limit are those of its extent. -/
theorem bounds_eq_ofExtent :
    limit.bounds property filler = .ofExtent (limit.bounds property filler).extent := by
  have tooFew (number : UInt32) : (atLeastUpper property filler number).AllOrNothing := by
    unfold atLeastUpper
    split
    · exact .inr rfl
    · exact UpperBound.allOrNothing_lift _
  have enough (number : UInt32) :
      (atLeastUpperComplement property filler number).AllOrNothing := by
    unfold atLeastUpperComplement
    split
    · exact .inl rfl
    · exact UpperBound.allOrNothing_lift _
  have tooMany (number : UInt32) : (atMostUpper property filler number).AllOrNothing :=
    UpperBound.allOrNothing_lift _
  have fewEnough (number : UInt32) :
      (atMostUpperComplement property filler number).AllOrNothing :=
    UpperBound.allOrNothing_lift _
  cases limit with
  | atLeast number => exact Bounds.ofUpper_eq_ofExtent (tooFew number) (enough number)
  | atMost number => exact Bounds.ofUpper_eq_ofExtent (tooMany number) (fewEnough number)
  | exactly number =>
    exact Bounds.ofUpper_eq_ofExtent ((tooFew number).min (tooMany number))
      ((enough number).max (fewEnough number))

variable {α : Type u} {related inside : Set α}

/-- What surely meets a limit does, whatever the property and the filler denote. -/
theorem SurelyMet.admits (met : limit.SurelyMet property filler)
    (known : property.Describes related) (about : filler.Describes inside) :
    limit.Admits (related ∩ inside) := by
  have enough {number : UInt32} (met : EnoughForAll property filler number) :
      (number.toNat : ℕ∞) ≤ (related ∩ inside).encard := by
    rcases met with rfl | ⟨full, many⟩
    · exact zero_le
    · rw [known.full full, Set.univ_inter]
      exact many.trans about.lower
  have fewEnough {number : UInt32} (met : FewEnoughForAll property filler number) :
      (related ∩ inside).encard ≤ number.toNat := by
    rcases met with empty | few
    · rw [known.empty empty, Set.empty_inter, Set.encard_empty]
      exact zero_le
    · exact (Set.encard_le_encard Set.inter_subset_right).trans (about.upper.trans few)
  cases limit with
  | atLeast number => exact enough met
  | atMost number => exact fewEnough met
  | exactly number => exact le_antisymm (fewEnough met.2) (enough met.1)

/-- What surely misses a limit does, whatever the property and the filler denote. -/
theorem SurelyMissed.not_admits (missed : limit.SurelyMissed property filler)
    (known : property.Describes related) (about : filler.Describes inside) :
    ¬limit.Admits (related ∩ inside) := by
  have tooFew {number : UInt32} (missed : TooFewForAll property filler number) :
      (related ∩ inside).encard < number.toNat := by
    obtain ⟨positive, empty | few⟩ := missed
    · rw [known.empty empty, Set.empty_inter, Set.encard_empty, ← Nat.cast_zero, Nat.cast_lt,
        Nat.pos_iff_ne_zero]
      exact fun zero => positive (UInt32.toNat_inj.1 zero)
    · exact (Set.encard_le_encard Set.inter_subset_right).trans_lt (about.upper.trans_lt few)
  have tooMany {number : UInt32} (missed : TooManyForAll property filler number) :
      (number.toNat : ℕ∞) < (related ∩ inside).encard := by
    rw [known.full missed.1, Set.univ_inter]
    exact missed.2.trans_le about.lower
  cases limit with
  | atLeast number => exact not_le.2 (tooFew missed)
  | atMost number => exact not_le.2 (tooMany missed)
  | exactly number =>
    rcases missed with missed | missed
    · exact (tooFew missed).ne
    · exact (tooMany missed).ne'

end

end Count

namespace Quantifier

/-- Whether everything is sure to meet the restriction. -/
def SurelyMet (property : Extent) (filler : Bounds) : Quantifier → Prop
  | existential => Count.EnoughForAll property filler 1
  | universal => property.empty = true ∨ filler.upperComplement.toENat = 0
  | .count limit => limit.SurelyMet property filler

/-- Whether everything is sure to miss the restriction. -/
def SurelyMissed (property : Extent) (filler : Bounds) : Quantifier → Prop
  | existential => Count.TooFewForAll property filler 1
  | universal => property.full = true ∧ 1 ≤ filler.lowerComplement.toENat
  | .count limit => limit.SurelyMissed property filler

section

variable {property : Extent} {filler : Bounds} {quantifier : Quantifier}

/-- The rules say of a restriction that everything meets it when everything surely does. -/
theorem full_iff :
    (quantifier.bounds property filler).extent.full = true ↔
      quantifier.SurelyMet property filler := by
  cases quantifier with
  | existential => exact Count.full_iff
  | universal =>
    rw [Bounds.full_extent_iff, bounds, universalBounds, Bounds.ofUpper,
      Bounds.lift_eq_atMost_zero, Bool.or_eq_true, UpperBound.isAtMost_iff, SurelyMet]
    simp
  | count limit => exact Count.full_iff

/-- The rules say of a restriction that nothing meets it when everything surely misses it. -/
theorem empty_iff (single : filler.lower.toENat ≤ 1) :
    (quantifier.bounds property filler).extent.empty = true ↔
      quantifier.SurelyMissed property filler := by
  cases quantifier with
  | existential => exact Count.empty_iff single
  | universal =>
    rw [Bounds.empty_extent_iff, bounds, universalBounds, Bounds.ofUpper,
      Bounds.lift_eq_atMost_zero, Bool.and_eq_true, LowerBound.isAtLeast_iff, SurelyMissed]
    simp
  | count limit => exact Count.empty_iff single

/-- The bounds of a restriction are those of its extent. -/
theorem bounds_eq_ofExtent :
    quantifier.bounds property filler = .ofExtent (quantifier.bounds property filler).extent := by
  cases quantifier with
  | existential =>
    rw [bounds]
    exact Count.bounds_eq_ofExtent
  | universal =>
    exact Bounds.ofUpper_eq_ofExtent (UpperBound.allOrNothing_lift _)
      (UpperBound.allOrNothing_lift _)
  | count limit => exact Count.bounds_eq_ofExtent

/-- No restriction is said to be met by everything and by nothing. -/
theorem exclusive_extent (exclusive : property.Exclusive) (consistent : filler.Consistent) :
    (quantifier.bounds property filler).extent.Exclusive := by
  rw [Extent.Exclusive, full_iff, empty_iff consistent.lower_le_one]
  cases quantifier with
  | existential => exact Count.not_enoughForAll_and_tooFewForAll exclusive consistent.lower_le_upper
  | universal =>
    rintro ⟨empty | complement, full, outside⟩
    · exact exclusive ⟨full, empty⟩
    · have room := outside.trans consistent.lowerComplement_le_upperComplement
      rw [complement] at room
      simp at room
  | count limit =>
    exact Count.not_surelyMet_and_surelyMissed exclusive consistent.lower_le_upper

/-- The bounds of a restriction are consistent. -/
theorem consistent_bounds (exclusive : property.Exclusive) (consistent : filler.Consistent) :
    (quantifier.bounds property filler).Consistent := by
  rw [bounds_eq_ofExtent]
  exact Bounds.consistent_ofExtent (exclusive_extent exclusive consistent)

variable {α : Type u} {β : Type v} {relation : α → Set β} {inside : Set β}

/-- What is said of a restriction is right about what meets it. -/
theorem describes_extent (single : filler.lower.toENat ≤ 1)
    (known : ∀ x, property.Describes (relation x)) (about : filler.Describes inside) :
    (quantifier.bounds property filler).extent.Describes
      {x | quantifier.Admits (relation x) inside} where
  full := fun full => by
    refine Set.eq_univ_of_forall fun x => ?_
    have met := full_iff.1 full
    cases quantifier with
    | existential =>
      have enough : (Count.atLeast 1).SurelyMet property filler := met
      exact Set.one_le_encard_iff_nonempty.1 (enough.admits (known x) about)
    | universal =>
      rcases met with empty | complement
      · change relation x ⊆ inside
        rw [(known x).empty empty]
        exact Set.empty_subset inside
      · have all : insideᶜ.encard ≤ 0 := about.upperComplement.trans complement.le
        rw [le_zero_iff, Set.encard_eq_zero, Set.compl_empty_iff] at all
        change relation x ⊆ inside
        rw [all]
        exact Set.subset_univ (relation x)
    | count limit => exact Count.SurelyMet.admits met (known x) about
  empty := fun empty => by
    refine Set.eq_empty_of_forall_notMem fun x admits => ?_
    have missed := (empty_iff single).1 empty
    cases quantifier with
    | existential =>
      have tooFew : (Count.atLeast 1).SurelyMissed property filler := missed
      exact tooFew.not_admits (known x) about (Set.one_le_encard_iff_nonempty.2 admits)
    | universal =>
      have outside : 1 ≤ insideᶜ.encard := missed.2.trans about.lowerComplement
      obtain ⟨y, excluded⟩ := Set.one_le_encard_iff_nonempty.1 outside
      have all : relation x = Set.univ := (known x).full missed.1
      exact excluded (admits (all ▸ Set.mem_univ y))
    | count limit => exact Count.SurelyMissed.not_admits missed (known x) about admits

/-- The bounds of a restriction are right about what meets it. -/
theorem describes_bounds [Nonempty α] (single : filler.lower.toENat ≤ 1)
    (known : ∀ x, property.Describes (relation x)) (about : filler.Describes inside) :
    (quantifier.bounds property filler).Describes {x | quantifier.Admits (relation x) inside} := by
  rw [bounds_eq_ofExtent]
  exact Bounds.describes_ofExtent (describes_extent single known about)

/-- The bounds of an unqualified limit are right about what meets it. -/
theorem describes_count [Nonempty α] {limit : Count} (single : filler.lower.toENat ≤ 1)
    (known : ∀ x, property.Describes (relation x)) (about : filler.Describes (Set.univ : Set β)) :
    (limit.bounds property filler).Describes {x | limit.Admits (relation x)} := by
  have qualified : (limit.bounds property filler).Describes
      {x | limit.Admits (relation x ∩ Set.univ)} :=
    show ((Quantifier.count limit).bounds property filler).Describes _ from
      describes_bounds single known about
  simpa only [Set.inter_univ] using qualified

end

end Quantifier

end OntologyModules
