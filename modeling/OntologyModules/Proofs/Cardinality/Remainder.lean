import OntologyModules.Proofs.Cardinality.Intersection

/-!
# What the operands of an intersection keep

The exact number for an intersection is defined operand by operand. It is also the most of what
each operand by itself keeps when the complements of all others are taken from it
(`LowerBound.exactIntersection_eq_iSup`). In this form neither the order of the operands matters
nor which of them a pass prefers, and the number grows where more is known of an operand
(`LowerBound.exactIntersection_mono`).
-/

namespace OntologyModules.LowerBound

/-- What an operand keeps when the complements of all others are taken from it, which is nothing
if one of these is unbounded. -/
noncomputable def remainder (operands : List (LowerBound × UpperBound))
    (index : Fin operands.length) : ℕ∞ :=
  operands[index].1.toENat - ((operands.eraseIdx index).map (·.2.toENat)).sum

/-- At least as much is known of the second operand: it has no fewer elements, and its complement
no more. -/
def Sharpens (known sharper : LowerBound × UpperBound) : Prop :=
  known.1 ≤ sharper.1 ∧ sharper.2 ≤ known.2

/-- A later operand keeps what it keeps among the later ones, less the first complement. -/
theorem remainder_succ (first : LowerBound × UpperBound) (rest : List (LowerBound × UpperBound))
    (index : Fin rest.length) :
    remainder (first :: rest) index.succ = remainder rest index - first.2.toENat := by
  change rest[index].1.toENat - (first.2.toENat + ((rest.eraseIdx index).map (·.2.toENat)).sum) = _
  rw [remainder, tsub_tsub, add_comm]

/-- The exact number is below whatever is above each remainder. -/
theorem exactIntersection_le_iff {operands : List (LowerBound × UpperBound)} {number : ℕ∞} :
    exactIntersection operands ≤ number ↔ ∀ index, remainder operands index ≤ number := by
  induction operands generalizing number with
  | nil => exact iff_of_true zero_le fun index => index.elim0
  | cons first rest ih =>
    have later : (∀ index : Fin rest.length, remainder (first :: rest) index.succ ≤ number) ↔
        exactIntersection rest - first.2.toENat ≤ number := by
      simp only [remainder_succ, tsub_le_iff_right, ih]
    -- What the first operand keeps is its remainder by definition.
    have split := @Fin.forall_fin_succ rest.length fun index =>
      remainder (first :: rest) index ≤ number
    rw [exactIntersection, max_le_iff, ← later]
    exact split.symm

/-- The exact number is the most of what the operands keep. -/
theorem exactIntersection_eq_iSup (operands : List (LowerBound × UpperBound)) :
    exactIntersection operands = ⨆ index, remainder operands index :=
  eq_of_forall_ge_iff fun _ => exactIntersection_le_iff.trans iSup_le_iff.symm

section

variable {operands operands' : List (LowerBound × UpperBound)}

/-- The exact number does not depend on the order of the operands. -/
theorem exactIntersection_perm (perm : operands.Perm operands') :
    exactIntersection operands = exactIntersection operands' := by
  induction perm with
  | nil => rfl
  | cons first perm ih =>
    rw [exactIntersection, exactIntersection, ih, (perm.map (·.2.toENat)).sum_eq]
  | swap first second rest =>
    simp only [exactIntersection, List.map_cons, List.sum_cons, IntersectionTally.max_sub,
      tsub_tsub]
    rw [max_left_comm, add_comm (List.sum _), add_comm (List.sum _),
      add_comm second.2.toENat first.2.toENat]
  | trans _ _ first second => exact first.trans second

/-- Whichever operand comes first, the exact number is at least what it keeps. -/
theorem sub_le_exactIntersection {first : LowerBound × UpperBound}
    {rest : List (LowerBound × UpperBound)} (perm : operands.Perm (first :: rest)) :
    first.1.toENat - (rest.map (·.2.toENat)).sum ≤ exactIntersection operands := by
  rw [exactIntersection_perm perm, exactIntersection]
  exact le_max_left _ _

/-- The complements of operands of which more is known are smaller together. -/
theorem sum_complements_anti (sharper : List.Forall₂ Sharpens operands operands') :
    (operands'.map (·.2.toENat)).sum ≤ (operands.map (·.2.toENat)).sum := by
  induction sharper with
  | nil => exact le_rfl
  | cons sharper _ ih =>
    rw [List.map_cons, List.map_cons, List.sum_cons, List.sum_cons]
    exact add_le_add (UpperBound.toENat_le_toENat.2 sharper.2) ih

/-- The exact number grows where more is known of the operands. -/
theorem exactIntersection_mono (sharper : List.Forall₂ Sharpens operands operands') :
    exactIntersection operands ≤ exactIntersection operands' := by
  induction sharper with
  | nil => exact le_rfl
  | cons sharper others ih =>
    rw [exactIntersection, exactIntersection]
    exact max_le_max
      (tsub_le_tsub (toENat_le_toENat.2 sharper.1) (sum_complements_anti others))
      (tsub_le_tsub ih (UpperBound.toENat_le_toENat.2 sharper.2))

end

end OntologyModules.LowerBound
