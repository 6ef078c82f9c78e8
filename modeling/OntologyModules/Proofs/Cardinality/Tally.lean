import OntologyModules.Proofs.Cardinality.Remainder

/-!
# What a pass over an intersection remembers

A tally knows of the operands it has seen the saturated sum of the complement bounds, the only
operand with an unbounded complement, and the first operand whose score is not exceeded. The
invariant `IntersectionTally.Tracks` says so of every pass, whether its sums saturate or not;
each operand keeps it (`IntersectionTally.Tracks.add`), and so does a whole pass
(`IntersectionTally.Tracks.run`). Taking the best operand's complement bound back out of the sum
therefore never goes below zero (`IntersectionTally.Tracks.best_le_total`), and where nothing
saturates the single pass is optimal (`LowerBound.ofIntersection_optimal`).
-/

namespace OntologyModules

namespace IntersectionTally

/-- The two bounds of an operand with a bounded complement reach the greatest count together, so
no operand has a greater score. -/
def reaches (operand : LowerBound × UpperBound) : Bool :=
  operand.2.isBounded &&
    decide (Saturating.greatest ≤ operand.1.number.toNat + operand.2.amount)

/-- The best operand as it stands in the intersection. -/
def kept (tally : IntersectionTally) : Option (LowerBound × UpperBound) :=
  tally.best.map fun best => (best.1, .atMost best.2)

/-- The tally is what a pass over the operands seen remembers, even if sums have saturated. -/
structure Tracks (tally : IntersectionTally) (seen : List (LowerBound × UpperBound)) : Prop where
  /-- The sum is that of all complement bounds, or the greatest count. -/
  total : tally.total.toNat = min (seen.map (·.2.amount)).sum Saturating.greatest
  /-- Nothing is remembered of an unbounded complement when there is none. -/
  bounded : tally.unbounded = none → ∀ operand ∈ seen, operand.2 ≠ .unbounded
  /-- The operand remembered is the only one with an unbounded complement. -/
  unbounded : ∀ lower, tally.unbounded = some lower →
    ∃ rest, seen.Perm ((lower, .unbounded) :: rest) ∧ ∀ operand ∈ rest, operand.2 ≠ .unbounded
  /-- The best operand is one of those seen. -/
  best_mem : ∀ lower limit, tally.best = some (lower, limit) → (lower, .atMost limit) ∈ seen
  /-- Of several operands that reach the greatest count the first one is the best. -/
  reached : seen.find? reaches = tally.kept.filter reaches

/-- Nothing is remembered before the first operand. -/
theorem tracks_start : start.Tracks [] where
  total := rfl
  bounded := fun _ => List.forall_mem_nil _
  unbounded := nofun
  best_mem := nofun
  reached := rfl

section

variable {lower : LowerBound} {limit : UInt32}

/-- The score of an operand is the sum of its two bounds, or the greatest count. -/
theorem toNat_score (lower : LowerBound) (limit : UInt32) :
    (score (lower, limit)).toNat = min (lower.number.toNat + limit.toNat) Saturating.greatest :=
  Saturating.toNat_add _ _

/-- An operand reaches the greatest count when its score is the greatest count. -/
theorem reaches_iff :
    reaches (lower, .atMost limit) = true ↔ (score (lower, limit)).toNat = Saturating.greatest := by
  rw [toNat_score, reaches, UpperBound.isBounded, Bool.true_and, decide_eq_true_eq,
    UpperBound.amount]
  dsimp only
  omega

/-- The better operand is the new one or the one kept so far. -/
theorem better_eq_or (best : Option (LowerBound × UInt32)) (operand : LowerBound × UInt32) :
    better best operand = operand ∨ best = some (better best operand) := by
  cases best with
  | none => exact .inl rfl
  | some old =>
    rw [better]
    split
    · exact .inl rfl
    · exact .inr rfl

/-- An operand that reaches the greatest count stays the best. -/
theorem better_of_reaches {old : LowerBound × UInt32}
    (reached : reaches (old.1, .atMost old.2) = true) (operand : LowerBound × UInt32) :
    better (some old) operand = old := by
  have most := (score operand).toNat_lt
  have greatest : (score old).toNat = Saturating.greatest := reaches_iff.1 reached
  rw [Saturating.greatest] at greatest
  refine if_neg fun below => ?_
  rw [UInt32.lt_iff_toNat_lt] at below
  omega

/-- The first operand to reach the greatest count becomes the best. -/
theorem better_of_not_reaches {old : LowerBound × UInt32}
    (unreached : reaches (old.1, .atMost old.2) = false)
    (reached : reaches (lower, .atMost limit) = true) :
    better (some old) (lower, limit) = (lower, limit) := by
  have greatest := reaches_iff.1 reached
  have other : ¬(score old).toNat = Saturating.greatest := by
    rw [← reaches_iff, unreached]
    exact Bool.false_ne_true
  have limited : (score old).toNat = min (old.1.number.toNat + old.2.toNat) Saturating.greatest :=
    toNat_score old.1 old.2
  refine if_pos (UInt32.lt_iff_toNat_lt.2 ?_)
  omega

end

namespace Tracks

variable {tally next final : IntersectionTally} {seen operands : List (LowerBound × UpperBound)}

/-- The first operand that reaches the greatest count is kept when another one is added. -/
theorem reached_taking (tracks : tally.Tracks seen) (lower : LowerBound) (limit : UInt32) :
    (seen ++ [(lower, UpperBound.atMost limit)]).find? reaches =
      (tally.taking lower limit).kept.filter reaches := by
  have after : (tally.taking lower limit).kept =
      some ((better tally.best (lower, limit)).1,
        .atMost (better tally.best (lower, limit)).2) := rfl
  rw [List.find?_append, tracks.reached, after, kept]
  cases found : tally.best with
  | none =>
    rw [better]
    cases new : reaches (lower, .atMost limit) <;> simp [Option.filter_some, new]
  | some old =>
    cases reached : reaches (old.1, .atMost old.2) with
    | true =>
      rw [better_of_reaches reached]
      simp [Option.filter_some, reached]
    | false =>
      cases new : reaches (lower, .atMost limit) with
      | true =>
        rw [better_of_not_reaches reached new]
        simp [Option.filter_some, reached, new]
      | false =>
        -- Whichever of the two is the better one, it does not reach the greatest count.
        rcases better_eq_or (some old) (lower, limit) with same | same
        · rw [same]
          simp [Option.filter_some, reached, new]
        · rw [← Option.some.inj same]
          simp [Option.filter_some, reached, new]

/-- One more operand keeps the invariant. -/
theorem add {operand : LowerBound × UpperBound} (tracks : tally.Tracks seen)
    (added : tally.add operand = some next) : next.Tracks (seen ++ [operand]) := by
  obtain ⟨lower, upper⟩ := operand
  rcases add_eq_some added with ⟨limit, bounded, rfl⟩ | ⟨unbounded, unseen, rfl⟩
  · obtain rfl : upper = .atMost limit := bounded
    have limited : UpperBound.atMost limit ≠ .unbounded := by simp
    constructor
    case total =>
      rw [taking, Saturating.toNat_add, tracks.total, List.map_append, List.sum_append]
      simp only [List.map_cons, List.map_nil, List.sum_cons, List.sum_nil, UpperBound.amount]
      omega
    case bounded =>
      intro none
      rw [List.forall_mem_append, List.forall_mem_singleton]
      exact ⟨tracks.bounded none, limited⟩
    case unbounded =>
      intro kept some
      obtain ⟨rest, perm, others⟩ := tracks.unbounded kept some
      refine ⟨rest ++ [(lower, .atMost limit)], perm.append_right _, ?_⟩
      rw [List.forall_mem_append, List.forall_mem_singleton]
      exact ⟨others, limited⟩
    case best_mem =>
      intro best bestLimit found
      have better := Option.some.inj found
      rcases better_eq_or tally.best (lower, limit) with new | old
      · obtain ⟨rfl, rfl⟩ := Prod.mk.inj (new.symm.trans better)
        exact List.mem_append_right seen List.mem_cons_self
      · rw [better] at old
        exact List.mem_append_left _ (tracks.best_mem best bestLimit old)
    case reached => exact tracks.reached_taking lower limit
  · obtain rfl : upper = .unbounded := unbounded
    constructor
    case total => simpa [UpperBound.amount] using tracks.total
    case bounded => exact fun none => absurd none (Option.some_ne_none lower)
    case unbounded =>
      intro kept some
      obtain rfl := Option.some.inj some
      exact ⟨seen, List.perm_append_singleton _ _, tracks.bounded unseen⟩
    case best_mem =>
      intro best bestLimit found
      exact List.mem_append_left _ (tracks.best_mem best bestLimit found)
    case reached =>
      rw [List.find?_append, tracks.reached]
      exact Option.or_none

/-- A pass keeps the invariant. -/
theorem run (tracks : tally.Tracks seen)
    (run : operands.foldlM IntersectionTally.add tally = some final) :
    final.Tracks (seen ++ operands) := by
  induction operands generalizing tally seen with
  | nil =>
    obtain rfl := Option.some.inj run
    rwa [List.append_nil]
  | cons first rest ih =>
    rw [List.foldlM_cons] at run
    obtain ⟨next, added, later⟩ := Option.bind_eq_some_iff.1 run
    have result := ih (tracks.add added) later
    rwa [List.append_assoc] at result

/-- The complement bound of the best operand is never more than the sum, even if the sum has
saturated. -/
theorem best_le_total (tracks : tally.Tracks seen) {lower : LowerBound} {limit : UInt32}
    (found : tally.best = some (lower, limit)) : limit ≤ tally.total := by
  have part : limit.toNat ≤ (seen.map (·.2.amount)).sum :=
    List.le_sum_of_mem (List.mem_map.2 ⟨_, tracks.best_mem lower limit found, rfl⟩)
  have most := limit.toNat_lt
  rw [UInt32.le_iff_toNat_le, tracks.total, Saturating.greatest]
  omega

/-- At most one operand has an unbounded complement. -/
theorem countP_unbounded_le_one (tracks : tally.Tracks seen) :
    seen.countP (·.2 = .unbounded) ≤ 1 := by
  have none {rest : List (LowerBound × UpperBound)}
      (bounded : ∀ operand ∈ rest, operand.2 ≠ .unbounded) :
      rest.countP (·.2 = .unbounded) = 0 :=
    List.countP_eq_zero.2 fun operand mem => by simpa using bounded operand mem
  cases found : tally.unbounded with
  | none => rw [none (tracks.bounded found)]; exact Nat.zero_le 1
  | some lower =>
    obtain ⟨rest, perm, others⟩ := tracks.unbounded lower found
    rw [perm.countP_eq, List.countP_cons_of_pos (by simp), none others]

end Tracks

/-- A pass over the operands of an intersection remembers what the invariant says. -/
theorem tracks_of_run {operands : List (LowerBound × UpperBound)} {tally : IntersectionTally}
    (run : operands.foldlM add start = some tally) : tally.Tracks operands :=
  tracks_start.run run

end IntersectionTally

namespace LowerBound

/-- No sum over the operands saturates: neither that of the complement bounds, nor that of the
two bounds of an operand. -/
structure Unsaturated (operands : List (LowerBound × UpperBound)) : Prop where
  /-- The complement bounds can be summed up. -/
  total : (operands.map (·.2.amount)).sum ≤ Saturating.greatest
  /-- The two bounds of each operand can be summed up. -/
  scores : ∀ operand ∈ operands,
    operand.1.number.toNat + operand.2.amount ≤ Saturating.greatest

namespace Unsaturated

variable {operands operands' : List (LowerBound × UpperBound)}

/-- The order of the operands does not matter to their sums. -/
theorem perm (unsaturated : Unsaturated operands) (perm : operands.Perm operands') :
    Unsaturated operands' where
  total := by
    rw [← (perm.map (·.2.amount)).sum_eq]
    exact unsaturated.total
  scores := fun operand mem => unsaturated.scores operand (perm.mem_iff.2 mem)

/-- The pass computes the exact number. -/
theorem toENat_ofIntersection (unsaturated : Unsaturated operands) :
    (ofIntersection operands).toENat = exactIntersection operands :=
  LowerBound.toENat_ofIntersection unsaturated.total unsaturated.scores

/-- The pass leaves the same for every order of the operands. -/
theorem ofIntersection_perm (unsaturated : Unsaturated operands)
    (perm : operands.Perm operands') : ofIntersection operands = ofIntersection operands' := by
  rw [← toENat_inj, unsaturated.toENat_ofIntersection,
    (unsaturated.perm perm).toENat_ofIntersection, exactIntersection_perm perm]

end Unsaturated

section

variable {operands : List (LowerBound × UpperBound)}

/-- The bound of an intersection is what a pass over all its operands leaves, or nothing where
the pass was broken off. -/
theorem exists_tracks_or_eq_zero (operands : List (LowerBound × UpperBound)) :
    (∃ tally, IntersectionTally.Tracks tally operands ∧ ofIntersection operands = tally.bound) ∨
      ofIntersection operands = .zero := by
  rw [ofIntersection_eq_outcome]
  cases run : operands.foldlM IntersectionTally.add .start with
  | none => exact .inr rfl
  | some tally => exact .inl ⟨tally, IntersectionTally.tracks_of_run run, rfl⟩

/-- Without operands, or with several whose complements are unbounded, nothing is left. -/
theorem ofIntersection_eq_zero
    (degenerate : operands = [] ∨ 2 ≤ operands.countP (·.2 = .unbounded)) :
    ofIntersection operands = .zero := by
  rcases degenerate with rfl | several
  · rfl
  · refine (exists_tracks_or_eq_zero operands).resolve_left fun ⟨tally, tracks, _⟩ => ?_
    have single := tracks.countP_unbounded_le_one
    omega

/-- The bound of an intersection is at most the lower bound of an operand whose complement is
unbounded. -/
theorem ofIntersection_le_of_unbounded {lower : LowerBound}
    (mem : (lower, .unbounded) ∈ operands) :
    (ofIntersection operands).toENat ≤ lower.toENat := by
  rcases exists_tracks_or_eq_zero operands with ⟨tally, tracks, left⟩ | nothing
  · cases found : tally.unbounded with
    | none => exact absurd rfl (tracks.bounded found _ mem)
    | some only =>
      obtain ⟨rest, perm, others⟩ := tracks.unbounded only found
      rcases List.mem_cons.1 (perm.mem_iff.1 mem) with same | later
      · obtain ⟨rfl, -⟩ := Prod.mk.inj same
        rw [left, IntersectionTally.bound, found, toENat_minus]
        exact tsub_le_self
      · exact absurd rfl (others _ later)
  · rw [nothing]
    exact zero_le

end

/-- Where no sum saturates the single pass over an intersection is optimal: it computes the most
that an operand keeps when the complements of all others are taken from it, whatever the order of
the operands, and more of it where more is known of them. Without operands, or with several
unbounded complements, that is nothing; and no difference goes below zero, saturated or not. -/
theorem ofIntersection_optimal :
    (∀ operands, Unsaturated operands →
      (ofIntersection operands).toENat = ⨆ index, remainder operands index ∧
      (∀ permuted, operands.Perm permuted → ofIntersection permuted = ofIntersection operands) ∧
      ∀ sharper, Unsaturated sharper → List.Forall₂ Sharpens operands sharper →
        ofIntersection operands ≤ ofIntersection sharper) ∧
    (∀ operands : List (LowerBound × UpperBound),
      operands = [] ∨ 2 ≤ operands.countP (·.2 = .unbounded) → ofIntersection operands = .zero) ∧
    ∀ (operands : List (LowerBound × UpperBound)) (tally : IntersectionTally) (lower : LowerBound)
      (limit : UInt32), operands.foldlM IntersectionTally.add .start = some tally →
        tally.best = some (lower, limit) → limit ≤ tally.total := by
  refine ⟨fun operands unsaturated => ⟨?_, fun permuted perm => ?_, fun sharper fits known => ?_⟩,
    fun operands degenerate => ofIntersection_eq_zero degenerate,
    fun operands tally lower limit run found =>
      (IntersectionTally.tracks_of_run run).best_le_total found⟩
  · rw [unsaturated.toENat_ofIntersection, exactIntersection_eq_iSup]
  · exact (unsaturated.ofIntersection_perm perm).symm
  · rw [← toENat_le_toENat, unsaturated.toENat_ofIntersection, fits.toENat_ofIntersection]
    exact exactIntersection_mono known

/-- Two operands of which one just reaches the greatest count are bounded exactly, in either
order, and no worse where a complement gains a limit; and a saturated sum still covers the
complement bound that is taken out of it. -/
theorem ofIntersection_optimal_at_greatest_count :
    (ofIntersection [(⟨4294967290⟩, .atMost 5), (⟨3⟩, .atMost 2)]).toENat =
      ⨆ index, remainder [(⟨4294967290⟩, .atMost 5), (⟨3⟩, .atMost 2)] index ∧
    ofIntersection [(⟨3⟩, .atMost 2), (⟨4294967290⟩, .atMost 5)] =
      ofIntersection [(⟨4294967290⟩, .atMost 5), (⟨3⟩, .atMost 2)] ∧
    ofIntersection [(⟨4294967290⟩, .atMost 5), (⟨3⟩, .unbounded)] ≤
      ofIntersection [(⟨4294967290⟩, .atMost 5), (⟨3⟩, .atMost 2)] ∧
    ofIntersection [(⟨5⟩, .unbounded), (⟨1⟩, .atMost 0), (⟨5⟩, .unbounded)] = .zero ∧
    ∃ tally, [(⟨9⟩, .atMost 4294967295), (⟨0⟩, .atMost 1)].foldlM IntersectionTally.add .start =
      some tally ∧ tally.best = some (⟨9⟩, 4294967295) ∧ 4294967295 ≤ tally.total := by
  obtain ⟨exact, degenerate, noUnderflow⟩ := ofIntersection_optimal
  have unsaturated : Unsaturated [(⟨4294967290⟩, .atMost 5), (⟨3⟩, .atMost 2)] :=
    ⟨by decide, by decide⟩
  have weaker : Unsaturated [(⟨4294967290⟩, .atMost 5), (⟨3⟩, .unbounded)] :=
    ⟨by decide, by decide⟩
  have known : List.Forall₂ Sharpens [(⟨4294967290⟩, .atMost 5), (⟨3⟩, .unbounded)]
      [(⟨4294967290⟩, .atMost 5), (⟨3⟩, .atMost 2)] :=
    .cons ⟨by decide, by decide⟩ (.cons ⟨by decide, by decide⟩ .nil)
  obtain ⟨formula, order, -⟩ := exact _ unsaturated
  refine ⟨formula, order _ (.swap _ _ _), (exact _ weaker).2.2 _ unsaturated known,
    degenerate _ (.inr (by decide)), ⟨none, 4294967295, some (⟨9⟩, 4294967295)⟩, by decide, rfl, ?_⟩
  exact noUnderflow [(⟨9⟩, .atMost 4294967295), (⟨0⟩, .atMost 1)] _ ⟨9⟩ _ (by decide) rfl

end LowerBound

end OntologyModules
