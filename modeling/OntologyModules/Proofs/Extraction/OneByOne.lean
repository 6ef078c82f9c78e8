import OntologyModules.Proofs.Extraction.Fixpoint

/-!
# Adding axioms one by one

A growth chooses all axioms of a pass at once. One can also choose a single fresh candidate at a
time, in any order, and let its entities join the signature before the next one is looked for.
Every such run ends, and every run that has ended has chosen the axioms of the growth and reached
its signature (`Stage.OnTheWay.eq_growth`): each addition stays within the least closed set, and a
stage that nothing can be added to is closed. The module of a seed in one flavour is therefore
the least fixed point whatever the order of the work.
-/

namespace OntologyModules

/-- What a growth has reached. -/
structure Stage where
  /-- The entities found so far, read in the flavour of the growth. -/
  signature : Signature
  /-- The candidates, of which some have been chosen. -/
  candidates : List Candidate

namespace Stage

/-- The stage before anything is chosen. -/
def start (axioms : List Axiom) (seed : List Entity) (flavour : Flavour) : Stage :=
  ⟨.ofEntities seed (.uniform flavour), axioms.map .ofAxiom⟩

/-- The axioms chosen so far, in order. -/
def axioms (stage : Stage) : List Axiom := Candidate.chosenAxioms stage.candidates

/-- One fresh candidate is chosen and its entities join the signature. -/
inductive AddsOne : Stage → Stage → Prop where
  /-- Any candidate may be next. -/
  | add {signature : Signature} {before after : List Candidate} {candidate : Candidate}
      (fresh : candidate.isFresh signature = true) :
      AddsOne ⟨signature, before ++ candidate :: after⟩
        ⟨signature.extend candidate.statement.mentions,
          before ++ { candidate with chosen := true } :: after⟩

/-- Nothing can be added. -/
def Complete (stage : Stage) : Prop := ∀ next, ¬stage.AddsOne next

/-- The stage belongs to a growth of the seed within the axioms. -/
structure OnTheWay (current : List Axiom) (seed : List Entity) (flavour : Flavour)
    (stage : Stage) : Prop where
  /-- The signature covers the seed and what is chosen. -/
  gathered : Growth.Gathered seed flavour stage.signature stage.candidates
  /-- The candidates are the axioms. -/
  listed : stage.candidates.map (·.statement) = current
  /-- The growth chooses all that is chosen. -/
  within : stage.axioms ⊆ (Growth.ofSeed current seed flavour).axioms

/-- Choosing one more candidate adds its axiom to those chosen. -/
theorem mem_chosenAxioms_add {before after : List Candidate} {candidate : Candidate}
    (unchosen : candidate.chosen = false) {ax : Axiom} :
    ax ∈ Candidate.chosenAxioms (before ++ { candidate with chosen := true } :: after) ↔
      ax ∈ Candidate.chosenAxioms (before ++ candidate :: after) ∨
        ∃ added ∈ [candidate], added.statement = ax := by
  simp only [Candidate.mem_chosenAxioms, List.mem_append, List.mem_cons, List.not_mem_nil,
    or_false, exists_eq_left]
  constructor
  · rintro ⟨found, inBefore | rfl | inAfter, chosen, rfl⟩
    · exact .inl ⟨found, .inl inBefore, chosen, rfl⟩
    · exact .inr rfl
    · exact .inl ⟨found, .inr (.inr inAfter), chosen, rfl⟩
  · rintro (⟨found, inBefore | rfl | inAfter, chosen, rfl⟩ | rfl)
    · exact ⟨found, .inl inBefore, chosen, rfl⟩
    · rw [unchosen] at chosen
      exact absurd chosen Bool.false_ne_true
    · exact ⟨found, .inr (.inr inAfter), chosen, rfl⟩
    · exact ⟨_, .inr (.inl rfl), rfl, rfl⟩

variable {current : List Axiom} {seed : List Entity} {flavour : Flavour} {stage next : Stage}

/-- The first stage is on the way. -/
theorem onTheWay_start : OnTheWay current seed flavour (start current seed flavour) where
  gathered := Growth.gathered_start seed flavour current
  listed := Candidate.map_statement_ofAxiom current
  within := by
    rw [axioms, start, Candidate.chosenAxioms_map_ofAxiom]
    exact List.nil_subset _

/-- An addition stays on the way. -/
theorem OnTheWay.step (onTheWay : OnTheWay current seed flavour stage)
    (small : AllSmall current) (step : stage.AddsOne next) :
    OnTheWay current seed flavour next := by
  cases step with
  | @add signature before after candidate fresh =>
    have unchosen : candidate.chosen = false := (Candidate.isFresh_iff.1 fresh).1
    have added {ax : Axiom} := @mem_chosenAxioms_add before after candidate unchosen ax
    constructor
    · have gathered := onTheWay.gathered.extend added
      rwa [List.flatMap_singleton] at gathered
    · rw [← onTheWay.listed]
      simp only [List.map_append, List.map_cons]
    · intro ax mem
      rcases added.1 mem with earlier | ⟨found, new, rfl⟩
      · exact onTheWay.within earlier
      · obtain rfl := List.mem_singleton.1 new
        have closed := Growth.closed_ofSeed current seed flavour
        apply closed.mem_of_isFresh small onTheWay.gathered onTheWay.within _ fresh
        rw [← onTheWay.listed]
        exact List.mem_map_of_mem (List.mem_append_right before List.mem_cons_self)

/-- Every stage reached from the first one is on the way. -/
theorem onTheWay_of_reached (small : AllSmall current)
    (run : Relation.ReflTransGen AddsOne (start current seed flavour) stage) :
    OnTheWay current seed flavour stage := by
  induction run with
  | refl => exact onTheWay_start
  | tail _ step ih => exact ih.step small step

/-- An addition leaves fewer candidates open. -/
theorem AddsOne.openCount_lt (step : stage.AddsOne next) :
    Candidate.openCount next.candidates < Candidate.openCount stage.candidates := by
  cases step with
  | add fresh =>
    have unchosen := (Candidate.isFresh_iff.1 fresh).1
    simp only [Candidate.openCount, List.countP_append, List.countP_cons, unchosen, Bool.not_true,
      Bool.not_false, Bool.false_eq_true, ite_false, ite_true]
    omega

/-- Additions come to an end. -/
theorem exists_complete (stage : Stage) :
    ∃ last, Relation.ReflTransGen AddsOne stage last ∧ last.Complete := by
  induction size : Candidate.openCount stage.candidates using Nat.strong_induction_on
    generalizing stage with
  | _ size' ih =>
    by_cases complete : stage.Complete
    · exact ⟨stage, .refl, complete⟩
    · obtain ⟨next, step⟩ : ∃ next, stage.AddsOne next := by
        simpa only [Complete, not_forall, not_not] using complete
      have fewer := step.openCount_lt
      rw [size] at fewer
      obtain ⟨last, run, complete⟩ := ih _ fewer next rfl
      exact ⟨last, .head step run, complete⟩

/-- A complete stage has no fresh candidate. -/
theorem Complete.not_isFresh (complete : stage.Complete) {candidate : Candidate}
    (mem : candidate ∈ stage.candidates) : ¬candidate.isFresh stage.signature = true := by
  intro fresh
  obtain ⟨signature, candidates⟩ := stage
  obtain ⟨before, after, rfl⟩ := List.append_of_mem mem
  exact complete _ (.add fresh)

/-- In a complete stage every candidate that is not local has been chosen. -/
theorem Complete.chosen (complete : stage.Complete) {candidate : Candidate}
    (mem : candidate ∈ stage.candidates)
    (relevant : candidate.statement.isLocal stage.signature = false) :
    candidate.chosen = true := by
  cases chosen : candidate.chosen with
  | true => rfl
  | false => exact absurd (Candidate.isFresh_iff.2 ⟨chosen, relevant⟩) (complete.not_isFresh mem)

/-- A complete stage on the way has chosen all that the growth chooses. -/
theorem OnTheWay.superset (onTheWay : OnTheWay current seed flavour stage)
    (small : AllSmall current) (complete : stage.Complete) :
    (Growth.ofSeed current seed flavour).axioms ⊆ stage.axioms := by
  have closed : Growth.Closed current seed flavour stage.axioms := by
    intro ax listed relevant
    rw [← onTheWay.listed] at listed
    obtain ⟨candidate, mem, rfl⟩ := List.mem_map.1 listed
    have reached : candidate.statement.isLocal stage.signature = false := by
      rw [onTheWay.gathered]
      exact relevant
    exact Candidate.mem_chosenAxioms.2 ⟨candidate, mem, complete.chosen mem reached, rfl⟩
  exact closed.ofSeed_subset small

/-- A complete stage on the way is the outcome of the growth. -/
theorem OnTheWay.eq_growth (onTheWay : OnTheWay current seed flavour stage)
    (small : AllSmall current) (complete : stage.Complete) :
    stage.axioms = (Growth.ofSeed current seed flavour).axioms ∧
      stage.signature = (Growth.ofSeed current seed flavour).signature := by
  have marked : Candidate.Marked (· ∈ (Growth.ofSeed current seed flavour).axioms)
      stage.candidates := by
    intro candidate mem
    have listed : candidate.statement ∈ current := by
      rw [← onTheWay.listed]
      exact List.mem_map_of_mem mem
    rw [Bool.eq_iff_iff, decide_eq_true_eq]
    constructor
    · intro chosen
      exact onTheWay.within (Candidate.mem_chosenAxioms.2 ⟨candidate, mem, chosen, rfl⟩)
    · intro needed
      have part := Signature.covering_partOf_of_subset seed flavour
        (onTheWay.superset small complete)
      have relevant := part.isLocal_eq_false (small _ listed)
        (Growth.isLocal_eq_false_of_mem small needed)
      rw [Stage.axioms, ← onTheWay.gathered] at relevant
      exact complete.chosen mem relevant
  have same : stage.axioms = (Growth.ofSeed current seed flavour).axioms := by
    rw [axioms, marked.chosenAxioms, onTheWay.listed]
    exact (Growth.isSelection_ofSeed current seed flavour).symm
  refine ⟨same, ?_⟩
  rw [Growth.signature_ofSeed, ← same]
  exact onTheWay.gathered

end Stage

namespace Ontology

/-- The module of a seed in one flavour has the logical axioms that are not local for the seed
and the entities of the module, and it is within every set of logical axioms that has all axioms
that are not local for the seed and the set. The order of the axioms and of the seed does not
matter, and adding axioms one by one, in any order, comes to an end with the same axioms and the
same signature. -/
theorem extract_least_fixpoint (ontology : Ontology) (seed : List Entity) (flavour : Flavour)
    (small : ∀ ax ∈ ontology.axioms, ax.memberCount < Saturating.greatest) :
    (∀ ax, ax ∈ (ontology.extract seed (.ofFlavour flavour)).axioms ↔
      ax ∈ ontology.logicalAxioms ∧ ax.isLocal
        (.covering seed (ontology.extract seed (.ofFlavour flavour)).axioms flavour) = false) ∧
    (∀ others ⊆ ontology.logicalAxioms,
      Growth.Closed ontology.logicalAxioms seed flavour others →
        (ontology.extract seed (.ofFlavour flavour)).axioms ⊆ others) ∧
    (∀ (reordered : Ontology) (seed' : List Entity),
      reordered.axioms.Perm ontology.axioms → seed'.Perm seed →
        (reordered.extract seed' (.ofFlavour flavour)).axioms.Perm
          (ontology.extract seed (.ofFlavour flavour)).axioms) ∧
    ∀ stage : Stage, Relation.ReflTransGen Stage.AddsOne
        (.start ontology.logicalAxioms seed flavour) stage →
      (∃ last, Relation.ReflTransGen Stage.AddsOne stage last ∧ last.Complete) ∧
      (stage.Complete →
        stage.axioms = (ontology.extract seed (.ofFlavour flavour)).axioms ∧
        stage.signature = (ontology.extract seed (.ofFlavour flavour)).signature) := by
  have few := allSmall_logicalAxioms small
  rw [extract_ofFlavour]
  refine ⟨fun ax => Growth.mem_ofSeed_iff few, fun others _ closed => closed.ofSeed_subset few,
    fun reordered seed' axioms seeds => ?_, fun stage run => ⟨stage.exists_complete, ?_⟩⟩
  · rw [extract_ofFlavour]
    exact Growth.perm_ofSeed_of_perm few (axioms.filter _) seeds
  · exact (Stage.onTheWay_of_reached few run).eq_growth few

/-- A chain of classes is followed upwards from a name on it, in whatever order it is listed and
one axiom at a time as well. -/
theorem extract_least_fixpoint_of_chain :
    (chainOfClasses.extract [⟨.namedClass, "A"⟩] .bottom).axioms ⊆
      [.subClassOf (.named "A") (.named "B"), .subClassOf (.named "B") (.named "C")] ∧
    ((ofList chainOfClasses.axioms.reverse).extract [⟨.namedClass, "A"⟩] .bottom).axioms.Perm
      (chainOfClasses.extract [⟨.namedClass, "A"⟩] .bottom).axioms ∧
    ∃ last, Relation.ReflTransGen Stage.AddsOne
        (.start chainOfClasses.logicalAxioms [⟨.namedClass, "A"⟩] .bottom) last ∧
      last.axioms = (chainOfClasses.extract [⟨.namedClass, "A"⟩] .bottom).axioms := by
  obtain ⟨-, least, reordered, oneByOne⟩ :=
    extract_least_fixpoint chainOfClasses [⟨.namedClass, "A"⟩] .bottom (by decide)
  refine ⟨least _ (by decide) (by decide +kernel), reordered _ _ (by decide) (.refl _), ?_⟩
  obtain ⟨last, run, complete⟩ := (oneByOne _ .refl).1
  exact ⟨last, run, ((oneByOne last run).2 complete).1⟩

end Ontology

end OntologyModules
