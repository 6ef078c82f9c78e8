import OntologyModules.Proofs.Cardinality.Describes

/-!
# What saturation gives away

Sums and counts stop at the greatest count, so as bounds from above they stand for that count and
for all beyond it. A comparison with a smaller number can be trusted all the same, and one with
the greatest count where nothing was cut off (`UpperBound.isAtMost_sound_iff`). The lower bound of
an intersection takes one complement bound back out of the saturated sum of all and then subtracts
too little. It claims more than it may exactly when every complement is bounded, the sum of their
bounds saturates, and the first operand that reaches the greatest count exceeds it by more than
any operand keeps (`LowerBound.ofIntersection_sound_iff`).
-/

namespace OntologyModules

universe u

namespace UpperBound

variable {bounds : List UpperBound}

/-- A union has at most as many elements as its parts have together. -/
theorem encard_unionList_le {α : Type u} {sets : List (Set α)}
    (within : List.Forall₂ (fun bound s => s.encard ≤ bound.toENat) bounds sets) :
    (unionList sets).encard ≤ (bounds.map toENat).sum := by
  have admits : List.Forall₂ LowerBound.Admits (bounds.map fun bound => (LowerBound.zero, bound))
      (sets.map compl) := by
    rw [List.forall₂_map_left_iff, List.forall₂_map_right_iff]
    refine within.imp fun bound s small => ⟨zero_le, ?_⟩
    rwa [compl_compl]
  have counted := LowerBound.encard_compl_interList_le admits
  rwa [← unionList_eq_compl, List.map_map] at counted

/-- A count that may be too large to be kept is found to be at most a number when it is, and
whenever the number is the greatest count. -/
theorem isAtMost_ofNat_iff {count : Nat} {number : UInt32} :
    (atMost (Saturating.ofNat count)).isAtMost number = true ↔
      count ≤ number.toNat ∨ Saturating.greatest ≤ number.toNat := by
  rw [isAtMost, decide_eq_true_eq, UInt32.le_iff_toNat_le, Saturating.toNat_ofNat, min_le_iff]

/-- A sum of upper bounds that is found to be at most a number bounds the union of whatever the
operands bound, exactly if the number is less than the greatest count or the sum does not
saturate; and so is the number of different members that of an enumeration. -/
theorem isAtMost_sound_iff {β : Type} [DecidableEq β] (bounds : List UpperBound)
    (members : List β) (number : UInt32) :
    (((sumAll bounds).isAtMost number = true →
        (∀ bound ∈ bounds, bound ≠ .unbounded) ∧ (bounds.map amount).sum ≤ number.toNat ∧
        ∀ (α : Type u) (sets : List (Set α)),
          List.Forall₂ (fun bound s => s.encard ≤ bound.toENat) bounds sets →
            (unionList sets).encard ≤ (sumAll bounds).toENat) ↔
      number.toNat < Saturating.greatest ∨ .unbounded ∈ bounds ∨
        (bounds.map amount).sum ≤ Saturating.greatest) ∧
    (((atMost (distinctCount members)).isAtMost number = true →
        (distinctMembers members).length ≤ number.toNat) ↔
      number.toNat < Saturating.greatest ∨
        (distinctMembers members).length ≤ Saturating.greatest) := by
  have word : number.toNat ≤ Saturating.greatest := Nat.le_of_lt_succ number.toNat_lt
  constructor
  · rcases unbounded_mem_or_limited bounds with mem | limited
    · refine iff_of_true (fun found => ?_) (.inr (.inl mem))
      rw [sumAll_eq_unbounded mem] at found
      exact absurd found Bool.false_ne_true
    · have none : .unbounded ∉ bounds := fun mem => limited _ mem rfl
      rw [sumAll_eq_atMost limited, isAtMost_ofNat_iff, or_iff_right none]
      constructor
      · intro sound
        by_contra saturated
        have trusted := (sound (.inr (by omega))).2.1
        omega
      · intro trusted found
        have exact : (bounds.map amount).sum ≤ number.toNat := by omega
        refine ⟨limited, exact, fun α sets within => ?_⟩
        rw [← sumAll_eq_atMost limited, toENat_sumAll (exact.trans word)]
        exact encard_unionList_le within
  · rw [distinctCount, isAtMost_ofNat_iff]
    omega

/-- A sum that should exceed the greatest count is found to be at most the greatest count. -/
theorem not_isAtMost_sound_at_greatest_count :
    ¬((sumAll [.atMost 4294967295, .atMost 1]).isAtMost 4294967295 = true →
      ([.atMost 4294967295, .atMost 1].map amount).sum ≤ (4294967295 : UInt32).toNat) := by
  decide

end UpperBound

/-- What the first operand that reaches the greatest count exceeds it by. -/
def LowerBound.excess (operands : List (LowerBound × UpperBound)) : Nat :=
  match operands.find? IntersectionTally.reaches with
  | some operand => operand.1.number.toNat + operand.2.amount - Saturating.greatest
  | none => 0

namespace IntersectionTally.Tracks

variable {tally : IntersectionTally} {seen : List (LowerBound × UpperBound)}

/-- Where a complement is unbounded the pass leaves no more than the exact number, even if the sum
of the others saturates: no lower bound exceeds the greatest count. -/
theorem bound_le_of_unbounded (tracks : tally.Tracks seen) {lower : LowerBound}
    (found : tally.unbounded = some lower) :
    tally.bound.toENat ≤ LowerBound.exactIntersection seen := by
  obtain ⟨rest, perm, others⟩ := tracks.unbounded lower found
  have left : tally.bound = lower.minus tally.total := by rw [bound, found]
  have total : (seen.map (·.2.amount)).sum = (rest.map (·.2.amount)).sum := by
    rw [(perm.map (·.2.amount)).sum_eq, List.map_cons, List.sum_cons, UpperBound.amount,
      Nat.zero_add]
  have most := lower.number.toNat_lt
  refine le_trans ?_ (LowerBound.sub_le_exactIntersection perm)
  rw [left, LowerBound.toENat_minus, UpperBound.sum_toENat_eq_sum_amount others, tracks.total,
    total, Saturating.greatest, LowerBound.toENat, ← ENat.natCast_sub, ← ENat.natCast_sub,
    Nat.cast_le]
  omega

/-- Where the sum of the complement bounds does not saturate the pass leaves no more than the
exact number, even if scores do: it leaves what the best operand keeps. -/
theorem bound_le_of_fits (tracks : tally.Tracks seen) (none : tally.unbounded = none)
    (fits : (seen.map (·.2.amount)).sum ≤ Saturating.greatest) :
    tally.bound.toENat ≤ LowerBound.exactIntersection seen := by
  cases found : tally.best with
  | none =>
    have left : tally.bound = .zero := by rw [bound, none, found]
    rw [left]
    exact zero_le
  | some best =>
    obtain ⟨lower, limit⟩ := best
    have left : tally.bound = lower.minus (tally.total - limit) := by rw [bound, none, found]
    have mem := tracks.best_mem lower limit found
    have perm := List.perm_cons_erase mem
    have others : ∀ operand ∈ seen.erase (lower, .atMost limit), operand.2 ≠ .unbounded :=
      fun operand within => tracks.bounded none operand (List.mem_of_mem_erase within)
    have total := tracks.total
    rw [min_eq_left fits, (perm.map (·.2.amount)).sum_eq, List.map_cons, List.sum_cons,
      UpperBound.amount] at total
    refine le_trans ?_ (LowerBound.sub_le_exactIntersection perm)
    rw [left, LowerBound.toENat_minus, UpperBound.sum_toENat_eq_sum_amount others,
      UInt32.toNat_sub_of_le _ _ (tracks.best_le_total found), total, Nat.add_sub_cancel_left]

/-- Where all complements are bounded and the sum of their bounds saturates, the pass leaves what
the first operand that reaches the greatest count exceeds it by. -/
theorem toNat_bound_of_saturated (tracks : tally.Tracks seen) (none : tally.unbounded = none)
    (saturated : Saturating.greatest < (seen.map (·.2.amount)).sum) :
    tally.bound.number.toNat = LowerBound.excess seen := by
  have total := tracks.total
  rw [min_eq_right saturated.le] at total
  rw [LowerBound.excess, tracks.reached, kept]
  cases found : tally.best with
  | none =>
    rw [bound, none, found]
    rfl
  | some best =>
    obtain ⟨lower, limit⟩ := best
    have part := tracks.best_le_total found
    have bound : tally.bound = lower.minus (tally.total - limit) := by rw [bound, none, found]
    have left : tally.bound.number.toNat =
        lower.number.toNat - (Saturating.greatest - limit.toNat) := by
      rw [bound, ← total, ← UInt32.toNat_sub_of_le _ _ part]
      exact Saturating.toNat_sub _ _
    rw [UInt32.le_iff_toNat_le, total] at part
    rw [left, Option.map_some, Option.filter_some]
    cases reached : reaches (lower, .atMost limit) with
    | true =>
      rw [if_pos rfl]
      dsimp only [UpperBound.amount]
      omega
    | false =>
      have below : ¬(score (lower, limit)).toNat = Saturating.greatest := by
        rw [← reaches_iff, reached]
        exact Bool.false_ne_true
      rw [toNat_score] at below
      rw [if_neg Bool.false_ne_true]
      dsimp only
      omega

end IntersectionTally.Tracks

namespace LowerBound

variable {operands : List (LowerBound × UpperBound)}

/-- A pass leaves no more than the exact number where a complement is unbounded or the sum of
the complement bounds does not saturate. -/
theorem ofIntersection_le_exactIntersection
    (safe : (∃ operand ∈ operands, operand.2 = .unbounded) ∨
      (operands.map (·.2.amount)).sum ≤ Saturating.greatest) :
    (ofIntersection operands).toENat ≤ exactIntersection operands := by
  rcases exists_tracks_or_eq_zero operands with ⟨tally, tracks, left⟩ | nothing
  · rw [left]
    cases found : tally.unbounded with
    | some lower => exact tracks.bound_le_of_unbounded found
    | none =>
      have fits := safe.resolve_left fun ⟨operand, mem, unbounded⟩ =>
        tracks.bounded found operand mem unbounded
      exact tracks.bound_le_of_fits found fits
  · rw [nothing]
    exact zero_le

/-- A pass over bounded complements is never broken off. -/
theorem foldlM_add_ne_none (limited : ∀ operand ∈ operands, operand.2 ≠ .unbounded)
    (tally : IntersectionTally) : operands.foldlM IntersectionTally.add tally ≠ none := by
  induction operands generalizing tally with
  | nil => exact Option.some_ne_none tally
  | cons first rest ih =>
    obtain ⟨firstLimited, restLimited⟩ := List.forall_mem_cons.1 limited
    rw [List.foldlM_cons]
    cases added : tally.add first with
    | none =>
      exact absurd (UpperBound.toENat_eq_top.1 (IntersectionTally.add_eq_none added).2) firstLimited
    | some next => exact ih restLimited next

/-- A pass whose sum saturates leaves what the first operand that reaches the greatest count
exceeds it by. -/
theorem toENat_ofIntersection_of_saturated
    (limited : ∀ operand ∈ operands, operand.2 ≠ .unbounded)
    (saturated : Saturating.greatest < (operands.map (·.2.amount)).sum) :
    (ofIntersection operands).toENat = excess operands := by
  rw [ofIntersection_eq_outcome]
  cases run : operands.foldlM IntersectionTally.add .start with
  | none => exact absurd run (foldlM_add_ne_none limited .start)
  | some tally =>
    have tracks := IntersectionTally.tracks_of_run run
    have none : tally.unbounded = none := by
      cases found : tally.unbounded with
      | none => rfl
      | some lower =>
        obtain ⟨rest, perm, -⟩ := tracks.unbounded lower found
        exact absurd rfl (limited _ (perm.mem_iff.2 List.mem_cons_self))
    exact congrArg Nat.cast (tracks.toNat_bound_of_saturated none saturated)

/-- The bound of an intersection claims no more than an operand keeps, and no more than is in the
intersection of whatever sets the operands admit, exactly if a complement is unbounded, the sum of
the complement bounds does not saturate, or no more than an operand keeps is what the first one
that reaches the greatest count exceeds it by. -/
theorem ofIntersection_sound_iff (operands : List (LowerBound × UpperBound)) :
    ((ofIntersection operands).toENat ≤ ⨆ index, remainder operands index ∧
      ∀ (α : Type u) (sets : List (Set α)), List.Forall₂ Admits operands sets →
        (ofIntersection operands).toENat ≤ (interList sets).encard) ↔
      (∃ operand ∈ operands, operand.2 = .unbounded) ∨
        (operands.map (·.2.amount)).sum ≤ Saturating.greatest ∨
        (excess operands : ℕ∞) ≤ ⨆ index, remainder operands index := by
  rw [← exactIntersection_eq_iSup]
  constructor
  · rintro ⟨sound, -⟩
    by_contra neither
    obtain ⟨limited, saturated, overclaims⟩ : (∀ operand ∈ operands, operand.2 ≠ .unbounded) ∧
        Saturating.greatest < (operands.map (·.2.amount)).sum ∧
        exactIntersection operands < excess operands := by
      push Not at neither
      exact neither
    rw [toENat_ofIntersection_of_saturated limited saturated] at sound
    exact overclaims.not_ge sound
  · intro safe
    have sound : (ofIntersection operands).toENat ≤ exactIntersection operands := by
      rcases safe with unbounded | fits | kept
      · exact ofIntersection_le_exactIntersection (.inl unbounded)
      · exact ofIntersection_le_exactIntersection (.inr fits)
      · by_cases covered : (∃ operand ∈ operands, operand.2 = .unbounded) ∨
            (operands.map (·.2.amount)).sum ≤ Saturating.greatest
        · exact ofIntersection_le_exactIntersection covered
        · push Not at covered
          rwa [toENat_ofIntersection_of_saturated covered.1 covered.2]
    exact ⟨sound, fun α sets admits => sound.trans (exactIntersection_le_encard admits)⟩

/-- Of a set with one element and the empty set, whose complements are as small as the greatest
count and one, the bound of the intersection claims an element that is not there. -/
theorem not_ofIntersection_sound_at_greatest_count :
    ¬((ofIntersection [(⟨1⟩, .atMost 4294967295), (⟨0⟩, .atMost 1)]).toENat ≤
        ⨆ index, remainder [(⟨1⟩, .atMost 4294967295), (⟨0⟩, .atMost 1)] index) ∧
      List.Forall₂ Admits [(⟨1⟩, .atMost 4294967295), (⟨0⟩, .atMost 1)]
        [(Set.univ : Set Unit), ∅] ∧
      ¬((ofIntersection [(⟨1⟩, .atMost 4294967295), (⟨0⟩, .atMost 1)]).toENat ≤
        (interList [(Set.univ : Set Unit), ∅]).encard) := by
  have claimed : ofIntersection [(⟨1⟩, .atMost 4294967295), (⟨0⟩, .atMost 1)] = ⟨1⟩ := by decide
  have exact : exactIntersection [(⟨1⟩, .atMost 4294967295), (⟨0⟩, .atMost 1)] = 0 := by
    simp [exactIntersection, toENat, UpperBound.toENat]
  have nothing : (interList [(Set.univ : Set Unit), ∅]).encard = 0 := by
    simp [interList_cons, interList_nil]
  rw [← exactIntersection_eq_iSup, claimed, exact, nothing]
  refine ⟨by decide, .cons ⟨?_, ?_⟩ (.cons ⟨?_, ?_⟩ .nil), by decide⟩ <;>
    simp [toENat, UpperBound.toENat]

end LowerBound

end OntologyModules
