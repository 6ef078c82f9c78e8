import Mathlib
import OntologyModules.Cardinality.Bound

/-!
# Bounds as extended numbers

A bound is read as an extended natural number, where no limit is infinite. In this reading the
comparisons of bounds are comparisons of numbers, the least and the greatest of a list have
their universal properties, and a sum of upper bounds is the sum of numbers as long as it does
not saturate. `UpperBound.amount` is what an upper bound contributes to a saturating sum.
-/

namespace OntologyModules

namespace UpperBound

/-- The limit as an extended number; no limit is infinite. -/
def toENat : UpperBound → ℕ∞
  | atMost number => number.toNat
  | unbounded => ⊤

/-- What the bound contributes to a saturating sum; no limit contributes nothing. -/
def amount : UpperBound → Nat
  | atMost number => number.toNat
  | unbounded => 0

/-- The order of bounds is the order of numbers. -/
theorem toENat_le_toENat {first second : UpperBound} :
    first.toENat ≤ second.toENat ↔ first ≤ second := by
  cases first with
  | atMost number =>
    cases second with
    | atMost number' =>
      rw [toENat, toENat, Nat.cast_le, ← UInt32.le_iff_toNat_le]
      rfl
    | unbounded => exact iff_of_true le_top trivial
  | unbounded =>
    cases second with
    | atMost number' => exact iff_of_false (by simp [toENat]) id
    | unbounded => exact iff_of_true le_rfl trivial

/-- A bound is known by its number. -/
theorem toENat_inj {first second : UpperBound} :
    first.toENat = second.toENat ↔ first = second := by
  refine ⟨fun same => ?_, congrArg toENat⟩
  cases first with
  | atMost number =>
    cases second with
    | atMost number' => rw [UInt32.toNat_inj.1 (Nat.cast_inj.1 same)]
    | unbounded => exact absurd same (ENat.natCast_ne_top _)
  | unbounded =>
    cases second with
    | atMost number' => exact absurd same.symm (ENat.natCast_ne_top _)
    | unbounded => rfl

/-- Only the limit zero is zero. -/
theorem toENat_eq_zero {bound : UpperBound} : bound.toENat = 0 ↔ bound = .atMost 0 := by
  cases bound with
  | atMost number =>
    rw [toENat, Nat.cast_eq_zero, atMost.injEq, ← UInt32.toNat_inj]
    rfl
  | unbounded => simp [toENat]

/-- Only no limit is infinite. -/
theorem toENat_eq_top {bound : UpperBound} : bound.toENat = ⊤ ↔ bound = .unbounded := by
  cases bound with
  | atMost number => simp [toENat]
  | unbounded => simp [toENat]

/-- A limit on condition is zero or none. -/
theorem toENat_lift (condition : Bool) :
    (lift condition).toENat = if condition = true then 0 else ⊤ := by
  cases condition <;> simp [lift, toENat]

/-- A bound on a condition that holds more often is less. -/
theorem lift_le_lift {first second : Bool} (implies : second = true → first = true) :
    lift first ≤ lift second := by
  rw [← toENat_le_toENat, toENat_lift, toENat_lift]
  by_cases holds : second = true
  · rw [if_pos holds, if_pos (implies holds)]
  · rw [if_neg holds]
    exact le_top

/-- A bound is at most a number when its limit is. -/
theorem isAtMost_iff {bound : UpperBound} {number : UInt32} :
    bound.isAtMost number = true ↔ bound.toENat ≤ number.toNat := by
  cases bound with
  | atMost limit =>
    rw [isAtMost, toENat, decide_eq_true_eq, Nat.cast_le, UInt32.le_iff_toNat_le]
  | unbounded => simp [isAtMost, toENat]

/-- A bound is less than a number when its limit is. -/
theorem isLessThan_iff {bound : UpperBound} {number : UInt32} :
    bound.isLessThan number = true ↔ bound.toENat < number.toNat := by
  cases bound with
  | atMost limit =>
    rw [isLessThan, toENat, decide_eq_true_eq, Nat.cast_lt, UInt32.lt_iff_toNat_lt]
  | unbounded => simp [isLessThan, toENat]

/-- The lesser of two bounds has the lesser limit. -/
theorem toENat_min (first second : UpperBound) :
    (min first second).toENat = min first.toENat second.toENat := by
  change (if first ≤ second then first else second).toENat = _
  split
  next below => rw [min_eq_left (toENat_le_toENat.2 below)]
  next above =>
    rw [← toENat_le_toENat, not_le] at above
    rw [min_eq_right above.le]

/-- The greater of two bounds has the greater limit. -/
theorem toENat_max (first second : UpperBound) :
    (max first second).toENat = max first.toENat second.toENat := by
  change (if first ≤ second then second else first).toENat = _
  split
  next below => rw [max_eq_right (toENat_le_toENat.2 below)]
  next above =>
    rw [← toENat_le_toENat, not_le] at above
    rw [max_eq_left above.le]

/-- The lesser of two bounds is zero when one of them is. -/
theorem min_eq_zero_iff {first second : UpperBound} :
    min first second = .atMost 0 ↔ first = .atMost 0 ∨ second = .atMost 0 := by
  rw [← toENat_eq_zero, ← toENat_eq_zero, ← toENat_eq_zero, toENat_min, ← le_zero_iff, min_le_iff,
    le_zero_iff, le_zero_iff]

/-- The greater of two bounds is zero when both of them are. -/
theorem max_eq_zero_iff {first second : UpperBound} :
    max first second = .atMost 0 ↔ first = .atMost 0 ∧ second = .atMost 0 := by
  rw [← toENat_eq_zero, ← toENat_eq_zero, ← toENat_eq_zero, toENat_max, ← le_zero_iff, max_le_iff,
    le_zero_iff, le_zero_iff]

/-- The greatest number below all bounds of a list is below the least of them. -/
theorem le_toENat_leastOf {bounds : List UpperBound} {number : ℕ∞} :
    number ≤ (leastOf bounds).toENat ↔ ∀ bound ∈ bounds, number ≤ bound.toENat := by
  have general : ∀ start : UpperBound, number ≤ (bounds.foldl min start).toENat ↔
      number ≤ start.toENat ∧ ∀ bound ∈ bounds, number ≤ bound.toENat := by
    induction bounds with
    | nil => simp
    | cons first rest ih =>
      intro start
      rw [List.foldl_cons, ih, toENat_min, le_min_iff, List.forall_mem_cons, and_assoc]
  rw [leastOf, general]
  exact and_iff_right le_top

/-- The least of upper bounds is zero exactly if one of them is. -/
theorem leastOf_eq_zero_iff {bounds : List UpperBound} :
    leastOf bounds = .atMost 0 ↔ .atMost 0 ∈ bounds := by
  constructor
  · intro zero
    by_contra none
    have positive : ∀ bound ∈ bounds, 1 ≤ bound.toENat := by
      intro bound mem
      rw [Order.one_le_iff_ne_zero, Ne, toENat_eq_zero]
      rintro rfl
      exact none mem
    have least := le_toENat_leastOf.2 positive
    rw [toENat_eq_zero.2 zero] at least
    simp at least
  · intro mem
    have below : (leastOf bounds).toENat ≤ 0 :=
      (le_toENat_leastOf.1 le_rfl _ mem).trans (toENat_eq_zero.2 rfl).le
    exact toENat_eq_zero.1 (le_zero_iff.1 below)

/-- The least of a list does not depend on its order. -/
theorem leastOf_perm {bounds bounds' : List UpperBound} (perm : bounds.Perm bounds') :
    leastOf bounds = leastOf bounds' := by
  rw [← toENat_inj]
  refine eq_of_forall_le_iff fun number => ?_
  rw [le_toENat_leastOf, le_toENat_leastOf]
  simp only [perm.mem_iff]

/-- The least of a list contributes no more than the list. -/
theorem amount_leastOf_le (bounds : List UpperBound) :
    (leastOf bounds).amount ≤ (bounds.map amount).sum := by
  have general : ∀ start : UpperBound,
      (bounds.foldl min start).amount ≤ start.amount + (bounds.map amount).sum := by
    induction bounds with
    | nil => simp
    | cons first rest ih =>
      intro start
      have later := ih (min start first)
      have chosen : (min start first).amount ≤ start.amount + first.amount := by
        change (if start ≤ first then start else first).amount ≤ _
        split <;> omega
      rw [List.foldl_cons, List.map_cons, List.sum_cons]
      omega
  have result := general unbounded
  rwa [amount, Nat.zero_add] at result

/-- Of bounds that all have a limit the numbers add up to what they contribute. -/
theorem sum_toENat_eq_sum_amount {ι : Type} {operands : List ι} {bound : ι → UpperBound}
    (limited : ∀ operand ∈ operands, bound operand ≠ .unbounded) :
    (operands.map fun operand => (bound operand).toENat).sum =
      ((operands.map fun operand => (bound operand).amount).sum : Nat) := by
  induction operands with
  | nil => rfl
  | cons first rest ih =>
    obtain ⟨firstLimited, restLimited⟩ := List.forall_mem_cons.1 limited
    have same : (bound first).toENat = (bound first).amount := by
      cases known : bound first with
      | atMost number => rfl
      | unbounded => exact absurd known firstLimited
    rw [List.map_cons, List.map_cons, List.sum_cons, List.sum_cons, ih restLimited, same,
      Nat.cast_add]

/-- A sum is never below its first operand, even if it saturates. -/
theorem toENat_le_sum_left (first second : UpperBound) :
    first.toENat ≤ (first.sum second).toENat := by
  cases first with
  | atMost number =>
    cases second with
    | atMost number' =>
      have bound := number.toNat_lt
      rw [sum, toENat, toENat, Nat.cast_le, Saturating.toNat_add, Saturating.greatest]
      omega
    | unbounded => exact le_top
  | unbounded => exact le_top

/-- A sum is never below its second operand, even if it saturates. -/
theorem toENat_le_sum_right (first second : UpperBound) :
    second.toENat ≤ (first.sum second).toENat := by
  cases first with
  | atMost number =>
    cases second with
    | atMost number' =>
      have bound := number'.toNat_lt
      rw [sum, toENat, toENat, Nat.cast_le, Saturating.toNat_add, Saturating.greatest]
      omega
    | unbounded => exact le_top
  | unbounded => exact le_top

/-- A sum of a list is never below a member, even if it saturates. -/
theorem toENat_le_sumAll {bounds : List UpperBound} {bound : UpperBound} (mem : bound ∈ bounds) :
    bound.toENat ≤ (sumAll bounds).toENat := by
  have general : ∀ start : UpperBound, start.toENat ≤ (bounds.foldl sum start).toENat ∧
      ∀ bound ∈ bounds, bound.toENat ≤ (bounds.foldl sum start).toENat := by
    clear mem
    induction bounds with
    | nil => simp
    | cons first rest ih =>
      intro start
      obtain ⟨base, members⟩ := ih (start.sum first)
      rw [List.foldl_cons, List.forall_mem_cons]
      exact ⟨(toENat_le_sum_left start first).trans base,
        (toENat_le_sum_right start first).trans base, members⟩
  exact (general (.atMost 0)).2 bound mem

/-- A sum of a list is unlimited when a member is. -/
theorem sumAll_eq_unbounded {bounds : List UpperBound} (mem : .unbounded ∈ bounds) :
    sumAll bounds = .unbounded :=
  toENat_eq_top.1 (top_le_iff.1 (toENat_le_sumAll mem))

/-- A sum of limits is their exact sum, or the greatest count. -/
theorem sumAll_eq_atMost {bounds : List UpperBound}
    (limited : ∀ bound ∈ bounds, bound ≠ .unbounded) :
    sumAll bounds = .atMost (Saturating.ofNat (bounds.map amount).sum) := by
  have general : ∀ start : UInt32, bounds.foldl sum (.atMost start) =
      .atMost (Saturating.ofNat (start.toNat + (bounds.map amount).sum)) := by
    induction bounds with
    | nil =>
      intro start
      have word := start.toNat_lt
      rw [List.foldl_nil, atMost.injEq, ← UInt32.toNat_inj, Saturating.toNat_ofNat,
        Saturating.greatest, List.map_nil, List.sum_nil]
      omega
    | cons first rest ih =>
      intro start
      obtain ⟨firstLimited, restLimited⟩ := List.forall_mem_cons.1 limited
      cases first with
      | atMost number =>
        rw [List.foldl_cons, sum, ih restLimited, atMost.injEq, ← UInt32.toNat_inj,
          Saturating.toNat_ofNat, Saturating.toNat_ofNat, Saturating.toNat_add, List.map_cons,
          List.sum_cons, amount]
        omega
      | unbounded => exact absurd rfl firstLimited
  rw [sumAll, general, UInt32.toNat_zero, Nat.zero_add]

/-- A list has a member without a limit, or a limit of each member. -/
theorem unbounded_mem_or_limited (bounds : List UpperBound) :
    .unbounded ∈ bounds ∨ ∀ bound ∈ bounds, bound ≠ .unbounded := by
  by_cases mem : .unbounded ∈ bounds
  · exact .inl mem
  · exact .inr fun bound within same => mem (same ▸ within)

/-- A sum of a list that does not saturate is the sum of the limits. -/
theorem toENat_sumAll {bounds : List UpperBound}
    (fits : (bounds.map amount).sum ≤ Saturating.greatest) :
    (sumAll bounds).toENat = (bounds.map toENat).sum := by
  rcases unbounded_mem_or_limited bounds with mem | limited
  · have infinite : ⊤ ≤ (bounds.map toENat).sum :=
      List.le_sum_of_mem (List.mem_map.2 ⟨_, mem, rfl⟩)
    rw [sumAll_eq_unbounded mem, top_le_iff.1 infinite, toENat]
  · have exact : (bounds.map fun bound => bound.toENat).sum =
        ((bounds.map fun bound => bound.amount).sum : Nat) := sum_toENat_eq_sum_amount limited
    rw [sumAll_eq_atMost limited, toENat, Saturating.toNat_ofNat, min_eq_left fits]
    exact exact.symm

/-- A sum of a list contributes no more than the list. -/
theorem amount_sumAll_le (bounds : List UpperBound) :
    (sumAll bounds).amount ≤ (bounds.map amount).sum := by
  rcases unbounded_mem_or_limited bounds with mem | limited
  · rw [sumAll_eq_unbounded mem]
    exact Nat.zero_le _
  · rw [sumAll_eq_atMost limited, amount, Saturating.toNat_ofNat]
    exact min_le_left _ _

/-- A sum of a list does not depend on its order, even if it saturates. -/
theorem sumAll_perm {bounds bounds' : List UpperBound} (perm : bounds.Perm bounds') :
    sumAll bounds = sumAll bounds' := by
  rcases unbounded_mem_or_limited bounds with mem | limited
  · rw [sumAll_eq_unbounded mem, sumAll_eq_unbounded (perm.mem_iff.1 mem)]
  · have limited' : ∀ bound ∈ bounds', bound ≠ .unbounded := fun bound within =>
      limited bound (perm.mem_iff.2 within)
    rw [sumAll_eq_atMost limited, sumAll_eq_atMost limited', (perm.map amount).sum_eq]

/-- A sum of upper bounds is zero exactly if all of them are. -/
theorem sumAll_eq_zero_iff {bounds : List UpperBound} :
    sumAll bounds = .atMost 0 ↔ ∀ bound ∈ bounds, bound = .atMost 0 := by
  constructor
  · intro zero bound mem
    have below := toENat_le_sumAll mem
    rw [zero, toENat_eq_zero.2 rfl] at below
    exact toENat_eq_zero.1 (le_zero_iff.1 below)
  · intro zeros
    induction bounds with
    | nil => rfl
    | cons first rest ih =>
      obtain ⟨rfl, later⟩ := List.forall_mem_cons.1 zeros
      exact ih later

end UpperBound

namespace LowerBound

/-- The bound as an extended number. -/
def toENat (bound : LowerBound) : ℕ∞ := bound.number.toNat

/-- The order of bounds is the order of numbers. -/
theorem toENat_le_toENat {first second : LowerBound} :
    first.toENat ≤ second.toENat ↔ first ≤ second := by
  rw [toENat, toENat, Nat.cast_le, ← UInt32.le_iff_toNat_le]
  rfl

/-- A bound is known by its number. -/
theorem toENat_inj {first second : LowerBound} :
    first.toENat = second.toENat ↔ first = second := by
  refine ⟨fun same => ?_, congrArg toENat⟩
  have word : first.number = second.number := UInt32.toNat_inj.1 (Nat.cast_inj.1 same)
  exact congrArg mk word

/-- A bound on condition is one or zero. -/
theorem toENat_lift (condition : Bool) :
    (lift condition).toENat = if condition = true then 1 else 0 := by
  cases condition <;> simp [lift, zero, toENat]

/-- A bound on a condition that holds more often is greater. -/
theorem lift_le_lift {first second : Bool} (implies : first = true → second = true) :
    lift first ≤ lift second := by
  rw [← toENat_le_toENat, toENat_lift, toENat_lift]
  by_cases holds : first = true
  · rw [if_pos holds, if_pos (implies holds)]
  · rw [if_neg holds]
    exact zero_le

/-- A bound is at least a number when it is not below it. -/
theorem isAtLeast_iff {bound : LowerBound} {number : UInt32} :
    bound.isAtLeast number = true ↔ (number.toNat : ℕ∞) ≤ bound.toENat := by
  rw [isAtLeast, toENat, decide_eq_true_eq, Nat.cast_le, UInt32.le_iff_toNat_le]

/-- A bound less a number is the truncated difference. -/
theorem toENat_minus (bound : LowerBound) (number : UInt32) :
    (bound.minus number).toENat = bound.toENat - number.toNat := by
  rw [minus, toENat, toENat, Saturating.toNat_sub, ENat.natCast_sub]

/-- The greater of two bounds has the greater number. -/
theorem toENat_max (first second : LowerBound) :
    (max first second).toENat = max first.toENat second.toENat := by
  change (if first ≤ second then second else first).toENat = _
  split
  next below => rw [max_eq_right (toENat_le_toENat.2 below)]
  next above =>
    rw [← toENat_le_toENat, not_le] at above
    rw [max_eq_left above.le]

/-- The least number above all bounds of a list is above the greatest of them. -/
theorem toENat_greatestOf_le {bounds : List LowerBound} {number : ℕ∞} :
    (greatestOf bounds).toENat ≤ number ↔ ∀ bound ∈ bounds, bound.toENat ≤ number := by
  have general : ∀ start : LowerBound, (bounds.foldl max start).toENat ≤ number ↔
      start.toENat ≤ number ∧ ∀ bound ∈ bounds, bound.toENat ≤ number := by
    induction bounds with
    | nil => simp
    | cons first rest ih =>
      intro start
      rw [List.foldl_cons, ih, toENat_max, max_le_iff, List.forall_mem_cons, and_assoc]
  rw [greatestOf, general]
  exact and_iff_right (by simp [zero, toENat])

/-- The greatest of a list does not depend on its order. -/
theorem greatestOf_perm {bounds bounds' : List LowerBound} (perm : bounds.Perm bounds') :
    greatestOf bounds = greatestOf bounds' := by
  rw [← toENat_inj]
  refine eq_of_forall_ge_iff fun number => ?_
  rw [toENat_greatestOf_le, toENat_greatestOf_le]
  simp only [perm.mem_iff]

end LowerBound

end OntologyModules
