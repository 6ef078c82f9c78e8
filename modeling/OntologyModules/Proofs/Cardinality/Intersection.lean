import OntologyModules.Cardinality.Intersection
import OntologyModules.Proofs.Cardinality.Limit

/-!
# What the pass over an intersection computes

In exact numbers an intersection keeps, of each operand, what its lower bound exceeds the
complement bounds of all other operands together, and the most of these is
`LowerBound.exactIntersection`. The single pass computes just that number as long as no sum
saturates (`LowerBound.toENat_ofIntersection`): one operand changes what the tally leaves as it
changes the exact number (`IntersectionTally.bound_add`). Whether or not sums saturate, the
result is at most every common limit of the operands' own lower bounds
(`LowerBound.ofIntersection_le`).
-/

namespace OntologyModules

/-- The most that the lower bound of one operand exceeds the complement bounds of all others. -/
noncomputable def LowerBound.exactIntersection : List (LowerBound × UpperBound) → ℕ∞
  | [] => 0
  | (lower, upper) :: rest =>
    max (lower.toENat - (rest.map (·.2.toENat)).sum) (exactIntersection rest - upper.toENat)

namespace IntersectionTally

/-- What the complements seen so far may take from one more operand. -/
def removed (tally : IntersectionTally) : ℕ∞ :=
  if tally.unbounded.isSome then ⊤ else tally.total.toNat

/-- What holds of a tally whose sums have not saturated. -/
structure Valid (tally : IntersectionTally) : Prop where
  /-- Without a bounded complement nothing has been summed up. -/
  total_eq_zero : tally.best = none → tally.total = 0
  /-- The complement bound of the operand kept is part of the sum. -/
  best_le_total : ∀ kept, tally.best = some kept → kept.2.toNat ≤ tally.total.toNat
  /-- The score of the operand kept has not saturated. -/
  best_fits : ∀ kept, tally.best = some kept →
    kept.1.number.toNat + kept.2.toNat ≤ Saturating.greatest

/-- Nothing has saturated before the first operand. -/
theorem valid_start : start.Valid := ⟨fun _ => rfl, nofun, nofun⟩

/-- Of two operands whose scores do not saturate, the one with the greater sum is the better. -/
theorem score_lt_score {first second : LowerBound × UInt32}
    (firstFits : first.1.number.toNat + first.2.toNat ≤ Saturating.greatest)
    (secondFits : second.1.number.toNat + second.2.toNat ≤ Saturating.greatest) :
    score first < score second ↔
      first.1.number.toNat + first.2.toNat < second.1.number.toNat + second.2.toNat := by
  rw [UInt32.lt_iff_toNat_lt, score, score, Saturating.toNat_add, Saturating.toNat_add,
    min_eq_left firstFits, min_eq_left secondFits]

/-- A tally refuses an operand only as the second one with an unbounded complement. -/
theorem add_eq_none {tally : IntersectionTally} {operand : LowerBound × UpperBound}
    (refused : tally.add operand = none) : tally.removed = ⊤ ∧ operand.2.toENat = ⊤ := by
  obtain ⟨lower, upper⟩ := operand
  cases upper with
  | atMost limit => exact absurd refused (by simp [add])
  | unbounded =>
    by_cases seen : tally.unbounded.isSome
    · exact ⟨if_pos seen, rfl⟩
    · exact absurd refused (by simp [add, seen])

section

variable {tally : IntersectionTally} {lower : LowerBound} {limit : UInt32}

/-- The tally after an operand with a bounded complement. -/
def taking (tally : IntersectionTally) (lower : LowerBound) (limit : UInt32) :
    IntersectionTally :=
  { tally with
    total := Saturating.add tally.total limit
    best := some (better tally.best (lower, limit)) }

/-- Taking an operand into account either adds its bounded complement to the sum or keeps it as
the only one with an unbounded complement. -/
theorem add_eq_some {next : IntersectionTally} {operand : LowerBound × UpperBound}
    (added : tally.add operand = some next) :
    (∃ limit, operand.2 = .atMost limit ∧ next = tally.taking operand.1 limit) ∨
      operand.2 = .unbounded ∧ tally.unbounded = none ∧
        next = { tally with unbounded := some operand.1 } := by
  obtain ⟨lower, upper⟩ := operand
  cases upper with
  | atMost limit => exact .inl ⟨limit, rfl, (Option.some.inj added).symm⟩
  | unbounded =>
    cases seen : tally.unbounded with
    | some kept => exact absurd added (by simp [add, seen])
    | none => exact .inr ⟨rfl, rfl, by simpa [add, seen] using added.symm⟩

/-- A bounded complement leaves the operand with an unbounded one as it is. -/
theorem unbounded_taking (tally : IntersectionTally) (lower : LowerBound) (limit : UInt32) :
    (tally.taking lower limit).unbounded = tally.unbounded := rfl

/-- The sum grows by the complement bound of a new operand. -/
theorem toNat_total_taking (lower : LowerBound)
    (fits : tally.total.toNat + limit.toNat ≤ Saturating.greatest) :
    (tally.taking lower limit).total.toNat = tally.total.toNat + limit.toNat := by
  rw [taking, Saturating.toNat_add, min_eq_left fits]

/-- An operand with a bounded complement keeps a tally valid. -/
theorem Valid.taking (valid : tally.Valid)
    (fits : tally.total.toNat + limit.toNat ≤ Saturating.greatest)
    (scoreFits : lower.number.toNat + limit.toNat ≤ Saturating.greatest) :
    (tally.taking lower limit).Valid := by
  have total := toNat_total_taking lower fits
  have keeps : ∀ kept, better tally.best (lower, limit) = kept →
      kept.2.toNat ≤ tally.total.toNat + limit.toNat ∧
        kept.1.number.toNat + kept.2.toNat ≤ Saturating.greatest := by
    rintro kept rfl
    unfold better
    split
    · exact ⟨Nat.le_add_left _ _, scoreFits⟩
    next old found =>
      have oldTotal := valid.best_le_total old found
      have oldFits := valid.best_fits old found
      split
      · exact ⟨Nat.le_add_left _ _, scoreFits⟩
      · exact ⟨by omega, oldFits⟩
  refine ⟨nofun, fun kept found => ?_, fun kept found => ?_⟩
  · rw [total]
    exact (keeps kept (Option.some.inj found)).1
  · exact (keeps kept (Option.some.inj found)).2

/-- An operand with a bounded complement adds its bound to what is removed. -/
theorem removed_taking (lower : LowerBound)
    (fits : tally.total.toNat + limit.toNat ≤ Saturating.greatest) :
    (tally.taking lower limit).removed = tally.removed + limit.toNat := by
  have total := toNat_total_taking lower fits
  rw [removed, removed, unbounded_taking]
  by_cases seen : tally.unbounded.isSome
  · rw [if_pos seen, if_pos seen, top_add]
  · rw [if_neg seen, if_neg seen, total, Nat.cast_add]

/-- Once a complement is unbounded, its operand loses the new complement bound as well. -/
theorem bound_taking_of_some {kept : LowerBound} (seen : tally.unbounded = some kept)
    (fits : tally.total.toNat + limit.toNat ≤ Saturating.greatest) :
    (tally.taking lower limit).bound.toENat = tally.bound.toENat - limit.toNat := by
  have total := toNat_total_taking lower fits
  have after : (tally.taking lower limit).bound = kept.minus (tally.taking lower limit).total := by
    rw [bound, unbounded_taking, seen]
  have before : tally.bound = kept.minus tally.total := by
    rw [bound, seen]
  rw [after, before, LowerBound.toENat_minus, LowerBound.toENat_minus, total, Nat.cast_add,
    tsub_tsub]

/-- While all complements are bounded, the tally leaves the better of what the old operand keeps
after the new complement and what the new operand keeps after all old complements. -/
theorem bound_taking_of_none (valid : tally.Valid) (seen : tally.unbounded = none)
    (fits : tally.total.toNat + limit.toNat ≤ Saturating.greatest)
    (scoreFits : lower.number.toNat + limit.toNat ≤ Saturating.greatest) :
    (tally.taking lower limit).bound.toENat =
      max (tally.bound.toENat - limit.toNat) (lower.toENat - tally.total.toNat) := by
  have total := toNat_total_taking lower fits
  have after : (tally.taking lower limit).bound =
      (better tally.best (lower, limit)).1.minus
        ((tally.taking lower limit).total - (better tally.best (lower, limit)).2) := by
    rw [bound, unbounded_taking, seen]
    rfl
  have valid' := (valid.taking fits scoreFits).best_le_total _ rfl
  rw [after, LowerBound.toENat_minus, UInt32.toNat_sub_of_le _ _ (UInt32.le_iff_toNat_le.2 valid'),
    total]
  cases found : tally.best with
  | none =>
    have before : tally.bound = .zero := by rw [bound, seen, found]
    have nothing : tally.total.toNat = 0 := by rw [valid.total_eq_zero found]; rfl
    rw [before, nothing]
    simp [better, LowerBound.toENat, LowerBound.zero]
  | some kept =>
    have before : tally.bound = kept.1.minus (tally.total - kept.2) := by rw [bound, seen, found]
    have part := valid.best_le_total kept found
    have keptFits := valid.best_fits kept found
    rw [before, LowerBound.toENat_minus,
      UInt32.toNat_sub_of_le _ _ (UInt32.le_iff_toNat_le.2 part)]
    have order : score kept < score (lower, limit) ↔
        kept.1.number.toNat + kept.2.toNat < lower.number.toNat + limit.toNat :=
      score_lt_score keptFits scoreFits
    simp only [LowerBound.toENat, ← ENat.natCast_sub, ← Nat.mono_cast.map_max, better, order]
    split
    next replaced =>
      have left : lower.number.toNat - (tally.total.toNat + limit.toNat - limit.toNat) =
          max (kept.1.number.toNat - (tally.total.toNat - kept.2.toNat) - limit.toNat)
            (lower.number.toNat - tally.total.toNat) := by omega
      exact congrArg Nat.cast left
    next stays => exact congrArg Nat.cast (by omega)

end

/-- One operand changes what a tally leaves and removes as it changes the exact numbers. -/
theorem bound_add {tally next : IntersectionTally} {operand : LowerBound × UpperBound}
    (valid : tally.Valid)
    (fits : tally.total.toNat + operand.2.amount ≤ Saturating.greatest)
    (scoreFits : operand.1.number.toNat + operand.2.amount ≤ Saturating.greatest)
    (added : tally.add operand = some next) :
    next.Valid ∧ next.total.toNat = tally.total.toNat + operand.2.amount ∧
      next.removed = tally.removed + operand.2.toENat ∧
      next.bound.toENat =
        max (tally.bound.toENat - operand.2.toENat) (operand.1.toENat - tally.removed) := by
  obtain ⟨lower, upper⟩ := operand
  rcases add_eq_some added with ⟨limit, bounded, rfl⟩ | ⟨unbounded, unseen, rfl⟩
  · obtain rfl : upper = .atMost limit := bounded
    refine ⟨valid.taking fits scoreFits, toNat_total_taking lower fits,
      removed_taking lower fits, ?_⟩
    cases seen : tally.unbounded with
    | none =>
      rw [bound_taking_of_none valid seen fits scoreFits, removed, seen]
      rfl
    | some kept =>
      rw [bound_taking_of_some seen fits, removed, seen]
      simp [UpperBound.toENat]
  · obtain rfl : upper = .unbounded := unbounded
    refine ⟨⟨valid.total_eq_zero, valid.best_le_total, valid.best_fits⟩, rfl, ?_, ?_⟩
    · simp [removed, UpperBound.toENat]
    · have after : bound { tally with unbounded := some lower } = lower.minus tally.total := rfl
      rw [after, LowerBound.toENat_minus, removed, unseen]
      simp [UpperBound.toENat]

/-- The bound that a pass leaves, which is nothing if the pass was broken off. -/
def outcome : Option IntersectionTally → LowerBound
  | some tally => tally.bound
  | none => .zero

/-- A difference of a maximum is the maximum of the differences. -/
theorem max_sub (first second number : ℕ∞) :
    max first second - number = max (first - number) (second - number) :=
  Monotone.map_max (f := fun value : ℕ∞ => value - number)
    fun _ _ below => tsub_le_tsub_right below number

/-- A pass that does not saturate leaves the better of what the tally keeps after all operands
and what the operands keep after the tally. -/
theorem toENat_outcome {operands : List (LowerBound × UpperBound)} {tally : IntersectionTally}
    (valid : tally.Valid)
    (fits : tally.total.toNat + (operands.map (·.2.amount)).sum ≤ Saturating.greatest)
    (scoresFit : ∀ operand ∈ operands,
      operand.1.number.toNat + operand.2.amount ≤ Saturating.greatest) :
    (outcome (operands.foldlM add tally)).toENat =
      max (tally.bound.toENat - (operands.map (·.2.toENat)).sum)
        (LowerBound.exactIntersection operands - tally.removed) := by
  induction operands generalizing tally with
  | nil => simp [outcome, LowerBound.exactIntersection]
  | cons first rest ih =>
    rw [List.map_cons, List.sum_cons] at fits
    obtain ⟨firstFits, restFit⟩ := List.forall_mem_cons.1 scoresFit
    obtain ⟨lower, upper⟩ := first
    rw [List.foldlM_cons, List.map_cons, List.sum_cons, LowerBound.exactIntersection]
    cases added : tally.add (lower, upper) with
    | none =>
      obtain ⟨removed, second⟩ := add_eq_none added
      dsimp only at second
      simp [outcome, LowerBound.zero, LowerBound.toENat, removed, second]
    | some next =>
      obtain ⟨nextValid, total, removed, bound⟩ :=
        bound_add valid (by omega) firstFits added
      have later := ih nextValid (by omega) restFit
      change (outcome (rest.foldlM add next)).toENat = _
      rw [later, bound, removed, max_sub, max_sub, max_assoc, tsub_tsub, tsub_tsub, tsub_tsub,
        tsub_tsub, add_comm tally.removed, add_comm tally.removed]

/-- The lower bounds that a tally may subtract from are limited by a number. -/
structure LimitedBy (tally : IntersectionTally) (number : ℕ∞) : Prop where
  /-- The operand with an unbounded complement. -/
  unbounded_le : ∀ kept, tally.unbounded = some kept → kept.toENat ≤ number
  /-- The best operand with a bounded complement. -/
  best_le : ∀ kept, tally.best = some kept → kept.1.toENat ≤ number

/-- What a tally leaves is at most the lower bound that it subtracts from. -/
theorem LimitedBy.toENat_bound_le {tally : IntersectionTally} {number : ℕ∞}
    (limited : tally.LimitedBy number) : tally.bound.toENat ≤ number := by
  unfold bound
  split
  next lower found =>
    rw [LowerBound.toENat_minus]
    exact tsub_le_self.trans (limited.unbounded_le lower found)
  next lower limit _ found =>
    rw [LowerBound.toENat_minus]
    exact tsub_le_self.trans (limited.best_le (lower, limit) found)
  · simp [LowerBound.zero, LowerBound.toENat]

/-- An operand within the limit keeps a tally within it. -/
theorem LimitedBy.add {tally next : IntersectionTally} {number : ℕ∞}
    {operand : LowerBound × UpperBound} (limited : tally.LimitedBy number)
    (operandLimited : operand.1.toENat ≤ number) (added : tally.add operand = some next) :
    next.LimitedBy number := by
  rcases add_eq_some added with ⟨limit, -, rfl⟩ | ⟨-, -, rfl⟩
  · refine ⟨limited.unbounded_le, fun kept found => ?_⟩
    obtain rfl := Option.some.inj found
    unfold better
    split
    · exact operandLimited
    next old known =>
      split
      · exact operandLimited
      · exact limited.best_le old known
  · refine ⟨fun kept found => ?_, limited.best_le⟩
    obtain rfl := Option.some.inj found
    exact operandLimited

/-- A pass over operands within a limit leaves a bound within it. -/
theorem LimitedBy.toENat_outcome_le {operands : List (LowerBound × UpperBound)}
    {tally : IntersectionTally} {number : ℕ∞} (limited : tally.LimitedBy number)
    (operandsLimited : ∀ operand ∈ operands, operand.1.toENat ≤ number) :
    (outcome (operands.foldlM IntersectionTally.add tally)).toENat ≤ number := by
  induction operands generalizing tally with
  | nil => exact limited.toENat_bound_le
  | cons first rest ih =>
    obtain ⟨firstLimited, restLimited⟩ := List.forall_mem_cons.1 operandsLimited
    rw [List.foldlM_cons]
    cases added : tally.add first with
    | none => simp [outcome, LowerBound.zero, LowerBound.toENat]
    | some next => exact ih (limited.add firstLimited added) restLimited

end IntersectionTally

namespace LowerBound

/-- The bound of an intersection is what a pass over its operands leaves. -/
theorem ofIntersection_eq_outcome (operands : List (LowerBound × UpperBound)) :
    ofIntersection operands =
      IntersectionTally.outcome (operands.foldlM IntersectionTally.add .start) := by
  unfold ofIntersection
  split <;> simp_all [IntersectionTally.outcome]

/-- The pass over an intersection computes the exact number when nothing saturates. -/
theorem toENat_ofIntersection {operands : List (LowerBound × UpperBound)}
    (fits : (operands.map (·.2.amount)).sum ≤ Saturating.greatest)
    (scoresFit : ∀ operand ∈ operands,
      operand.1.number.toNat + operand.2.amount ≤ Saturating.greatest) :
    (ofIntersection operands).toENat = exactIntersection operands := by
  have run := IntersectionTally.toENat_outcome IntersectionTally.valid_start
    (by rwa [IntersectionTally.start, UInt32.toNat_zero, Nat.zero_add]) scoresFit
  rw [ofIntersection_eq_outcome, run]
  simp [IntersectionTally.start, IntersectionTally.removed, IntersectionTally.bound, zero, toENat]

/-- The bound of an intersection is at most a common limit of its operands' lower bounds. -/
theorem ofIntersection_le {operands : List (LowerBound × UpperBound)} {number : ℕ∞}
    (limited : ∀ operand ∈ operands, operand.1.toENat ≤ number) :
    (ofIntersection operands).toENat ≤ number := by
  rw [ofIntersection_eq_outcome]
  exact IntersectionTally.LimitedBy.toENat_outcome_le ⟨nofun, nofun⟩ limited

end LowerBound

end OntologyModules
