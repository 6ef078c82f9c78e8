import OntologyModules.Proofs.Extraction.OneByOne

/-!
# How long an extraction takes

A growth is a run of passes, each over a stage that has a fresh candidate, up to a stage that has
none (`Stage.exists_passes_continueFrom`). A pass chooses at least one candidate that was open and
takes none back, so what the passes report adds up to the axioms that they chose
(`Stage.Passes.sum_added`), and there are no more passes than candidates. In an alternation, two
rounds in a row that drop nothing are the last ones, so there are at most two rounds for every
candidate and two more (`Alternation.length_rounds_le`). The log of a round lists its passes,
numbered from one (`Round.getElem?_log`), so the counts in it add up to the axioms of the round
(`Round.GrewWithin.sum_added_log`).
-/

namespace OntologyModules

namespace Candidate

/-- A candidate is chosen or open. -/
theorem length_chosenAxioms_add_openCount (candidates : List Candidate) :
    (chosenAxioms candidates).length + openCount candidates = candidates.length := by
  rw [chosenAxioms, List.length_map, ← List.countP_eq_length_filter, openCount,
    List.length_eq_countP_add_countP Candidate.chosen]
  simp only [decide_not, Bool.decide_eq_true]

/-- A pass that finds a fresh candidate chooses one that was open, in its place. -/
theorem exists_place_of_freshOnes_ne_nil {signature : Signature} {candidates : List Candidate}
    (fresh : freshOnes signature candidates ≠ []) :
    ∃ (place : Nat) (ax : Axiom), candidates[place]? = some ⟨ax, false⟩ ∧
      (chooseAll signature candidates)[place]? = some ⟨ax, true⟩ := by
  obtain ⟨⟨ax, chosen⟩, found⟩ := List.exists_mem_of_ne_nil _ fresh
  obtain ⟨mem, isFresh⟩ := List.mem_filter.1 found
  obtain rfl : chosen = false := (isFresh_iff.1 isFresh).1
  obtain ⟨place, there⟩ := List.getElem?_of_mem mem
  refine ⟨place, ax, there, ?_⟩
  rw [chooseAll, List.getElem?_map, there, Option.map_some, choose, isFresh]
  rfl

end Candidate

namespace Stage

/-- The candidates that the next pass chooses. -/
def fresh (stage : Stage) : List Candidate := Candidate.freshOnes stage.signature stage.candidates

/-- The stage after a pass. -/
def next (stage : Stage) : Stage :=
  ⟨stage.signature.extend (stage.fresh.flatMap (·.statement.mentions)),
    Candidate.chooseAll stage.signature stage.candidates⟩

/-- What the pass over the stage reports. -/
def report (stage : Stage) : Pass := ⟨stage.fresh.length, stage.next.signature.size⟩

/-- A run of passes from a stage, with their reports, up to another stage. -/
inductive Passes : Stage → List Pass → Stage → Prop where
  /-- No pass was made. -/
  | none (stage : Stage) : Passes stage [] stage
  /-- A pass over a stage with a fresh candidate comes first. -/
  | pass {stage last : Stage} {later : List Pass} (found : stage.fresh ≠ [])
      (run : Passes stage.next later last) : Passes stage (stage.report :: later) last

/-- A growth is a run of passes up to a stage without a fresh candidate. -/
theorem exists_passes_continueFrom (signature : Signature) (candidates : List Candidate) :
    ∃ last : Stage,
      Passes ⟨signature, candidates⟩ (Growth.continueFrom signature candidates).passes last ∧
      last.fresh = [] ∧ last.axioms = (Growth.continueFrom signature candidates).axioms ∧
      last.signature = (Growth.continueFrom signature candidates).signature := by
  fun_induction Growth.continueFrom signature candidates with
  | case1 signature candidates _ none => exact ⟨⟨signature, candidates⟩, .none _, none, rfl, rfl⟩
  | case2 signature candidates _ found _ later ih =>
    obtain ⟨last, run, complete, outcome⟩ := ih
    exact ⟨last, .pass found run, complete, outcome⟩

namespace Passes

variable {stage last : Stage} {passes : List Pass}

/-- What was open is chosen by one of the passes or still open after them. -/
theorem sum_added_add_openCount (run : Passes stage passes last) :
    (passes.map (·.added)).sum + Candidate.openCount last.candidates =
      Candidate.openCount stage.candidates := by
  induction run with
  | none => exact Nat.zero_add _
  | @pass stage last later found run ih =>
    calc ((stage.report :: later).map (·.added)).sum + Candidate.openCount last.candidates
      _ = Candidate.openCount stage.next.candidates + stage.fresh.length := by
        rw [List.map_cons, List.sum_cons, Nat.add_assoc, ih, Nat.add_comm]
        rfl
      _ = Candidate.openCount stage.candidates :=
        Candidate.openCount_chooseAll_add_length stage.signature stage.candidates

/-- Passes leave the axioms as they are. -/
theorem map_statement (run : Passes stage passes last) :
    last.candidates.map (·.statement) = stage.candidates.map (·.statement) := by
  induction run with
  | none => rfl
  | pass _ _ ih => exact ih.trans (Candidate.map_statement_chooseAll _ _)

/-- What the passes report adds up to the axioms that they chose. -/
theorem sum_added (run : Passes stage passes last) :
    stage.axioms.length + (passes.map (·.added)).sum = last.axioms.length := by
  have stillThere : last.candidates.length = stage.candidates.length := by
    simpa only [List.length_map] using congrArg List.length run.map_statement
  have before : stage.axioms.length + Candidate.openCount stage.candidates = _ :=
    Candidate.length_chosenAxioms_add_openCount stage.candidates
  have after : last.axioms.length + Candidate.openCount last.candidates = _ :=
    Candidate.length_chosenAxioms_add_openCount last.candidates
  have opened := run.sum_added_add_openCount
  omega

/-- Every pass reports at least one axiom. -/
theorem one_le_added (run : Passes stage passes last) : ∀ pass ∈ passes, 1 ≤ pass.added := by
  induction run with
  | none => exact fun _ mem => absurd mem List.not_mem_nil
  | pass found _ ih => exact List.forall_mem_cons.2 ⟨List.length_pos_iff.2 found, ih⟩

/-- There are no more passes than axioms that they chose. -/
theorem length_le_sum_added (run : Passes stage passes last) :
    passes.length ≤ (passes.map (·.added)).sum := by
  have each : ∀ added ∈ passes.map (·.added), 1 ≤ added :=
    List.forall_mem_map.2 run.one_le_added
  simpa only [List.length_map, Nat.mul_one, smul_eq_mul] using List.card_nsmul_le_sum _ 1 each

end Passes

end Stage

namespace Growth

variable (current : List Axiom) (seed : List Entity) (flavour : Flavour)

/-- A growth of a seed is a run of passes from its start up to a stage without a fresh
candidate. -/
theorem exists_passes_ofSeed : ∃ last : Stage,
    Stage.Passes (.start current seed flavour) (ofSeed current seed flavour).passes last ∧
      last.fresh = [] ∧ last.axioms = (ofSeed current seed flavour).axioms ∧
      last.signature = (ofSeed current seed flavour).signature :=
  Stage.exists_passes_continueFrom (.ofEntities seed (.uniform flavour))
    (current.map Candidate.ofAxiom)

/-- What the passes of a growth report adds up to the axioms that it chose. -/
theorem sum_added_ofSeed : ((ofSeed current seed flavour).passes.map (·.added)).sum =
    (ofSeed current seed flavour).axioms.length := by
  obtain ⟨last, run, -, axioms, -⟩ := exists_passes_ofSeed current seed flavour
  have none : (Stage.start current seed flavour).axioms = [] :=
    Candidate.chosenAxioms_map_ofAxiom current
  have sum := run.sum_added
  rw [axioms, none, List.length_nil, Nat.zero_add] at sum
  exact sum

end Growth

/-- How many axioms the entry says were added. -/
def LogEntry.added : LogEntry → Nat
  | pass _ _ step => step.added
  | extracted .. => 0

namespace Round

/-- At every place the log of a round has the pass of that place, numbered from one. -/
theorem getElem?_log (round : Round) (place : Nat) :
    round.log[place]? =
      round.growth.passes[place]?.map (.pass round.flavour (place + 1)) := by
  rw [log, List.getElem?_map, List.getElem?_zipIdx, Option.map_map, Nat.add_comm 1 place]
  rfl

/-- The log of a round reports the counts of its passes, in order. -/
theorem map_added_log (round : Round) :
    round.log.map (·.added) = round.growth.passes.map (·.added) := by
  refine List.ext_getElem? fun place => ?_
  rw [List.getElem?_map, List.getElem?_map, getElem?_log, Option.map_map]
  rfl

/-- What the log of a round reports adds up to the axioms of the round. -/
theorem GrewWithin.sum_added_log {round : Round} {seed : List Entity} {current : List Axiom}
    (grew : round.GrewWithin seed current) :
    (round.log.map (·.added)).sum = round.growth.axioms.length := by
  rw [map_added_log, grew]
  exact Growth.sum_added_ofSeed current seed round.flavour

end Round

namespace Alternation

/-- The candidates of an alternation and then what each of its rounds leaves. -/
def remains (current : List Axiom) (alternation : Alternation) : List (List Axiom) :=
  current :: alternation.rounds.map (·.growth.axioms)

variable (seed : List Entity) (flavour : Flavour) (settled : Bool) (current : List Axiom)

/-- There are at most two rounds for every candidate and two more, or one more if the opposite
flavour has kept all candidates already. -/
theorem length_rounds_le : (continueFrom seed flavour settled current).rounds.length ≤
    2 * current.length + if settled then 1 else 2 := by
  fun_induction continueFrom seed flavour settled current with
  | case1 flavour settled current =>
    simp only [rounds, List.length_singleton]
    split <;> omega
  | case2 flavour settled current growth kept goesOn next ih =>
    have shorter : growth.axioms.length ≤ current.length :=
      (Growth.sublist_axioms current seed flavour).length_le
    have rest : next.rounds.length ≤ 2 * growth.axioms.length + if kept then 1 else 2 := ih
    show next.rounds.length + 1 ≤ _
    by_cases keeps : growth.axioms.length = current.length
    · have unchanged : kept = true := beq_iff_eq.2 keeps
      -- The round before dropped something, or this one would be the last.
      have unsettled : settled = false := by
        cases settled with
        | true => exact absurd (Bool.or_eq_true_iff.2 (.inr (Bool.and_eq_true_iff.2
            ⟨unchanged, rfl⟩))) goesOn
        | false => rfl
      rw [unchanged, keeps, if_pos rfl] at rest
      rw [unsettled, if_neg Bool.false_ne_true]
      omega
    · have dropped : ¬kept = true := fun unchanged => keeps (beq_iff_eq.1 unchanged)
      rw [if_neg dropped] at rest
      split <;> omega

/-- Each round is a growth within what the round before has left, so it may drop axioms and adds
none. -/
theorem isChain_remains :
    (remains current (continueFrom seed flavour settled current)).IsChain fun before after =>
      (∃ flavour, after = (Growth.ofSeed before seed flavour).axioms) ∧
        after.Sublist before := by
  fun_induction continueFrom seed flavour settled current with
  | case1 flavour settled current =>
    exact List.isChain_pair.2 ⟨⟨flavour, rfl⟩, Growth.sublist_axioms current seed flavour⟩
  | case2 flavour settled current _ _ _ _ ih =>
    exact List.isChain_cons_cons.2
      ⟨⟨⟨flavour, rfl⟩, Growth.sublist_axioms current seed flavour⟩, ih⟩

/-- The rounds end when nothing is left or when two of them in a row have kept everything, the
round before the first being counted if the alternation is settled. -/
theorem remains_end :
    [[]] <:+ remains current (continueFrom seed flavour settled current) ∨
    (∃ left, [left, left, left] <:+ remains current (continueFrom seed flavour settled current)) ∨
    settled = true ∧ remains current (continueFrom seed flavour settled current) =
      [current, current] := by
  fun_induction continueFrom seed flavour settled current with
  | case1 flavour settled current growth kept ends =>
    rcases Bool.or_eq_true_iff.1 ends with none | stays
    · left
      show [[]] <:+ [current, growth.axioms]
      rw [List.isEmpty_iff.1 none]
      exact List.suffix_cons current [[]]
    · obtain ⟨unchanged, settled⟩ := Bool.and_eq_true_iff.1 stays
      have same : growth.axioms = current :=
        Growth.axioms_eq_of_length seed flavour current unchanged
      refine .inr (.inr ⟨settled, ?_⟩)
      show [current, growth.axioms] = [current, current]
      rw [same]
  | case2 flavour settled current growth kept _ next ih =>
    show [[]] <:+ current :: remains growth.axioms next ∨
      (∃ left, [left, left, left] <:+ current :: remains growth.axioms next) ∨ _
    rcases ih with none | ⟨left, twice⟩ | ⟨unchanged, rest⟩
    · exact .inl (none.trans (List.suffix_cons _ _))
    · exact .inr (.inl ⟨left, twice.trans (List.suffix_cons _ _)⟩)
    · have same : growth.axioms = current :=
        Growth.axioms_eq_of_length seed flavour current unchanged
      refine .inr (.inl ⟨current, ?_⟩)
      rw [rest, same]

end Alternation

namespace Ontology

/-- The log of an extraction in one flavour reports counts that add up to the module. -/
theorem sum_added_extractionLog (ontology : Ontology) (seed : List Entity) (flavour : Flavour) :
    ((ontology.extractionLog seed (.ofFlavour flavour)).map (·.added)).sum =
      (ontology.extract seed (.ofFlavour flavour)).size := by
  have alone (round : Round) (entry : LogEntry) (silent : entry.added = 0) :
      (([round].flatMap Round.log ++ [entry]).map (·.added)).sum =
        (round.log.map (·.added)).sum := by
    rw [List.flatMap_singleton, List.map_append, List.sum_append_nat, List.map_singleton, silent]
    rfl
  cases flavour with
  | bottom => exact (alone _ _ rfl).trans (Round.GrewWithin.sum_added_log rfl)
  | top => exact (alone _ _ rfl).trans (Round.GrewWithin.sum_added_log rfl)

/-- An extraction ends. A growth within some axioms is a run of passes up to a stage at which
nothing is fresh; together with the pass that finds nothing there is one pass more than there are
axioms at most, a pass over a stage with something fresh chooses an axiom that was not chosen
before, and the axioms that the passes report add up to those of the outcome. The rounds of a star
extraction are such growths, the first within the logical axioms and each other one within what
the one before has left; they drop axioms and add none, and they go on until nothing is left or
two in a row have dropped nothing. There are two of them for every logical axiom and two more at
most. The log of an extraction has the passes of its rounds, all of them such growths, numbered
from one in each round, and then the outcome; the counts that it reports of a round add up to the
axioms of the round, and those of an extraction in one flavour to the module. -/
theorem extraction_ends (ontology : Ontology) (seed : List Entity) :
    (∀ (current : List Axiom) (flavour : Flavour),
      (∃ last, Stage.Passes (.start current seed flavour)
          (Growth.ofSeed current seed flavour).passes last ∧ last.fresh = [] ∧
        last.axioms = (Growth.ofSeed current seed flavour).axioms ∧
        last.signature = (Growth.ofSeed current seed flavour).signature) ∧
      (Growth.ofSeed current seed flavour).passes.length + 1 ≤ current.length + 1 ∧
      (∀ pass ∈ (Growth.ofSeed current seed flavour).passes, 1 ≤ pass.added) ∧
      ((Growth.ofSeed current seed flavour).passes.map (·.added)).sum =
        (Growth.ofSeed current seed flavour).axioms.length) ∧
    (∀ stage : Stage, stage.fresh ≠ [] → ∃ (place : Nat) (ax : Axiom),
      stage.candidates[place]? = some ⟨ax, false⟩ ∧
        stage.next.candidates[place]? = some ⟨ax, true⟩) ∧
    (ontology.extraction seed .star).rounds.length ≤ 2 * ontology.logicalAxioms.length + 2 ∧
    (ontology.logicalAxioms ::
      (ontology.extraction seed .star).rounds.map (·.growth.axioms)).IsChain
        (fun before after => (∃ flavour, after = (Growth.ofSeed before seed flavour).axioms) ∧
          after.Sublist before) ∧
    ([[]] <:+ ontology.logicalAxioms ::
        (ontology.extraction seed .star).rounds.map (·.growth.axioms) ∨
      ∃ left, [left, left, left] <:+ ontology.logicalAxioms ::
        (ontology.extraction seed .star).rounds.map (·.growth.axioms)) ∧
    (∀ kind : ModuleKind,
      ontology.extractionLog seed kind =
        (ontology.extraction seed kind).rounds.flatMap Round.log ++
          [.extracted kind (ontology.extract seed kind).size ontology.size
            (ontology.extract seed kind).signature.size] ∧
      ∀ round ∈ (ontology.extraction seed kind).rounds,
        (∃ left : List Axiom, left.Sublist ontology.logicalAxioms ∧ round.GrewWithin seed left) ∧
        (∀ place : Nat, round.log[place]? =
          round.growth.passes[place]?.map (.pass round.flavour (place + 1))) ∧
        (round.log.map (·.added)).sum = round.growth.axioms.length) ∧
    ∀ flavour : Flavour,
      ((ontology.extractionLog seed (.ofFlavour flavour)).map (·.added)).sum =
        (ontology.extract seed (.ofFlavour flavour)).size := by
  refine ⟨fun current flavour => ?_, fun stage => Candidate.exists_place_of_freshOnes_ne_nil,
    Alternation.length_rounds_le seed .bottom false ontology.logicalAxioms,
    Alternation.isChain_remains seed .bottom false ontology.logicalAxioms, ?_, fun kind => ?_,
    ontology.sum_added_extractionLog seed⟩
  · obtain ⟨last, run, complete, axioms, signature⟩ :=
      Growth.exists_passes_ofSeed current seed flavour
    have total := Growth.sum_added_ofSeed current seed flavour
    have few : (Growth.ofSeed current seed flavour).passes.length ≤ current.length :=
      calc (Growth.ofSeed current seed flavour).passes.length
        _ ≤ ((Growth.ofSeed current seed flavour).passes.map (·.added)).sum :=
          run.length_le_sum_added
        _ = (Growth.ofSeed current seed flavour).axioms.length := total
        _ ≤ current.length := (Growth.sublist_axioms current seed flavour).length_le
    exact ⟨⟨last, run, complete, axioms, signature⟩, Nat.succ_le_succ few, run.one_le_added,
      total⟩
  · rcases Alternation.remains_end seed .bottom false ontology.logicalAxioms with
      none | twice | ⟨settled, -⟩
    · exact .inl none
    · exact .inr twice
    · exact absurd settled Bool.false_ne_true
  · refine ⟨rfl, fun round mem => ?_⟩
    obtain ⟨left, part, grew⟩ := ontology.exists_grewWithin_extraction seed kind round mem
    exact ⟨⟨left, part, grew⟩, round.getElem?_log, grew.sum_added_log⟩

/-- In a chain of classes the first pass from a name finds an axiom that it is the first to
choose. -/
theorem extraction_ends_of_chain : ∃ (place : Nat) (ax : Axiom),
    (Stage.start chainOfClasses.logicalAxioms [⟨.namedClass, "A"⟩] .bottom).candidates[place]? =
      some ⟨ax, false⟩ ∧
    (Stage.start chainOfClasses.logicalAxioms [⟨.namedClass, "A"⟩]
      .bottom).next.candidates[place]? = some ⟨ax, true⟩ :=
  (extraction_ends chainOfClasses [⟨.namedClass, "A"⟩]).2.1 _ (by decide +kernel)

/-- Of the three axioms of the chain the bottom round drops one and the top round another, and two
more rounds drop nothing. -/
example : (chainOfClasses.extraction [⟨.namedClass, "A"⟩, ⟨.namedClass, "B"⟩] .star).rounds.map
    (·.growth.axioms.length) = [2, 1, 1, 1] := by decide +kernel

end Ontology

end OntologyModules
