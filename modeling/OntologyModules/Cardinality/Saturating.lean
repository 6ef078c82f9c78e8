/-!
# Saturating arithmetic on counts

Counts are 32-bit words. A result that does not fit is replaced by the nearest word, so a sum
is never too large and a difference never below zero; `Saturating.toNat_add` and
`Saturating.toNat_sub` give both results as natural numbers.
-/

namespace OntologyModules.Saturating

/-- The greatest count. -/
def greatest : Nat := 4294967295

/-- The count nearest to a natural number. -/
def ofNat (number : Nat) : UInt32 := UInt32.ofNat (min number greatest)

/-- The sum, or the greatest count if the sum is greater. -/
def add (first second : UInt32) : UInt32 := ofNat (first.toNat + second.toNat)

/-- The difference, or zero if the second count is greater. -/
def sub (first second : UInt32) : UInt32 := ofNat (first.toNat - second.toNat)

/-- The nearest count is the number itself or the greatest count. -/
theorem toNat_ofNat (number : Nat) : (ofNat number).toNat = min number greatest := by
  simp only [ofNat, UInt32.toNat_ofNat', greatest]
  omega

/-- A saturated sum is the sum or the greatest count. -/
theorem toNat_add (first second : UInt32) :
    (add first second).toNat = min (first.toNat + second.toNat) greatest :=
  toNat_ofNat _

/-- A saturated difference is the truncated difference. -/
theorem toNat_sub (first second : UInt32) :
    (sub first second).toNat = first.toNat - second.toNat := by
  have bound := first.toNat_lt
  rw [sub, toNat_ofNat, greatest]
  omega

end OntologyModules.Saturating
