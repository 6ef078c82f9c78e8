import OntologyModules.Proofs.Extraction.Selection
import OntologyModules.Proofs.Locality.Monotonicity

/-!
# A growth reaches the least closed set

A set of candidates is closed for a seed when it has every candidate that is not local for the
seed and the entities of the set. Locality is lost and never gained as the signature grows, so the
passes of a growth stay within every closed set (`Growth.continueFrom_subset`), and what they
reach is closed itself: it is the least closed set, and its members are the candidates that are
not local for it (`Growth.mem_ofSeed_iff`). A growth therefore gains from more candidates, and
from every seed whose entities it can reach (`Growth.ofSeed_subset_ofSeed`).
-/

namespace OntologyModules

/-- No enumeration count of the axioms saturates. -/
def AllSmall (axioms : List Axiom) : Prop := ∀ ax ∈ axioms, ax.memberCount < Saturating.greatest

/-- Fewer axioms count no more. -/
theorem AllSmall.mono {fewer more : List Axiom} (small : AllSmall more) (subset : fewer ⊆ more) :
    AllSmall fewer := fun ax mem => small ax (subset mem)

namespace Signature

/-- An axiom that is not local stays so for a larger signature. -/
theorem PartOf.isLocal_eq_false {few many : Signature} (part : few.PartOf many) {ax : Axiom}
    (small : ax.memberCount < Saturating.greatest) (relevant : ax.isLocal few = false) :
    ax.isLocal many = false := by
  by_contra isLocal
  rw [Bool.not_eq_false] at isLocal
  have contradiction := part.isLocal small isLocal
  rw [relevant] at contradiction
  exact Bool.false_ne_true contradiction

/-- A cover of a seed that lies within another cover, and of fewer axioms, is a part of it. -/
theorem covering_partOf {seed seed' : List Entity} {fewer more : List Axiom} {flavour : Flavour}
    (seeds : ∀ entity ∈ seed, entity ∈ covering seed' more flavour) (axioms : fewer ⊆ more) :
    (covering seed fewer flavour).PartOf (covering seed' more flavour) where
  convention := rfl
  included := by
    intro entity mem
    rcases mem_covering.1 mem with inSeed | ⟨ax, within, mention⟩
    · exact seeds entity inSeed
    · exact mem_covering_of_mentions (axioms within) mention

/-- A cover of more axioms is larger. -/
theorem covering_partOf_of_subset (seed : List Entity) (flavour : Flavour)
    {fewer more : List Axiom} (axioms : fewer ⊆ more) :
    (covering seed fewer flavour).PartOf (covering seed more flavour) :=
  covering_partOf (fun _ mem => mem_covering_of_mem_seed mem) axioms

end Signature

namespace Growth

/-- The axioms have every candidate that is not local for the seed and their own entities. -/
def Closed (candidates : List Axiom) (seed : List Entity) (flavour : Flavour)
    (axioms : List Axiom) : Prop :=
  ∀ ax ∈ candidates, ax.isLocal (.covering seed axioms flavour) = false → ax ∈ axioms

instance (candidates : List Axiom) (seed : List Entity) (flavour : Flavour)
    (axioms : List Axiom) : Decidable (Closed candidates seed flavour axioms) :=
  inferInstanceAs (Decidable (∀ ax ∈ candidates, _ → _))

variable {current others : List Axiom} {seed : List Entity} {flavour : Flavour}
  {signature : Signature} {candidates : List Candidate}

/-- A fresh candidate is in every closed set that has what was chosen before. -/
theorem Closed.mem_of_isFresh (closed : Closed current seed flavour others)
    (small : AllSmall current) (gathered : Gathered seed flavour signature candidates)
    (within : Candidate.chosenAxioms candidates ⊆ others) {candidate : Candidate}
    (listed : candidate.statement ∈ current) (fresh : candidate.isFresh signature = true) :
    candidate.statement ∈ others := by
  have relevant : candidate.statement.isLocal signature = false :=
    (Candidate.isFresh_iff.1 fresh).2
  have part : signature.PartOf (.covering seed others flavour) := by
    rw [gathered]
    exact Signature.covering_partOf_of_subset seed flavour within
  apply closed _ listed
  exact part.isLocal_eq_false (small _ listed) relevant

/-- A closed set that has what is chosen so far has all that the next passes choose. -/
theorem continueFrom_subset (closed : Closed current seed flavour others)
    (small : AllSmall current) (gathered : Gathered seed flavour signature candidates)
    (listed : candidates.map (·.statement) = current)
    (within : Candidate.chosenAxioms candidates ⊆ others) :
    (continueFrom signature candidates).axioms ⊆ others := by
  fun_induction continueFrom signature candidates with
  | case1 => exact within
  | case2 signature candidates _ _ _ _ ih =>
    apply ih gathered.step
    · rw [Candidate.map_statement_chooseAll, listed]
    · intro ax mem
      rcases Candidate.mem_chosenAxioms_chooseAll.1 mem with before | ⟨candidate, fresh, rfl⟩
      · exact within before
      · obtain ⟨inside, isFresh⟩ := List.mem_filter.1 fresh
        apply closed.mem_of_isFresh small gathered within _ isFresh
        rw [← listed]
        exact List.mem_map_of_mem inside

/-- What a growth chooses is in every closed set. -/
theorem Closed.ofSeed_subset (closed : Closed current seed flavour others)
    (small : AllSmall current) : (ofSeed current seed flavour).axioms ⊆ others := by
  apply continueFrom_subset closed small (gathered_start seed flavour current)
    (Candidate.map_statement_ofAxiom current)
  rw [Candidate.chosenAxioms_map_ofAxiom]
  exact List.nil_subset others

/-- What a growth chooses is closed. -/
theorem closed_ofSeed (current : List Axiom) (seed : List Entity) (flavour : Flavour) :
    Closed current seed flavour (ofSeed current seed flavour).axioms := by
  intro ax listed relevant
  by_contra left
  have isLocal := isLocal_of_not_mem seed flavour current listed left
  rw [signature_ofSeed, relevant] at isLocal
  exact Bool.false_ne_true isLocal

/-- What a growth chooses is not local for the signature that it reaches: the members that are
not local are a closed set. -/
theorem isLocal_eq_false_of_mem (small : AllSmall current) {ax : Axiom}
    (mem : ax ∈ (ofSeed current seed flavour).axioms) :
    ax.isLocal (.covering seed (ofSeed current seed flavour).axioms flavour) = false := by
  let reached := Signature.covering seed (ofSeed current seed flavour).axioms flavour
  let needed := (ofSeed current seed flavour).axioms.filter fun ax => !ax.isLocal reached
  have closed : Closed current seed flavour needed := by
    intro ax listed relevant
    have part : (Signature.covering seed needed flavour).PartOf reached :=
      Signature.covering_partOf_of_subset seed flavour (List.filter_subset_self _)
    have stays : ax.isLocal reached = false := part.isLocal_eq_false (small ax listed) relevant
    have chosen := closed_ofSeed current seed flavour ax listed stays
    refine List.mem_filter.2 ⟨chosen, ?_⟩
    rw [stays]
    rfl
  have kept : ax ∈ needed := closed.ofSeed_subset small mem
  simpa using (List.mem_filter.1 kept).2

/-- The candidates chosen are those that are not local for the seed and the axioms chosen. -/
theorem mem_ofSeed_iff (small : AllSmall current) {ax : Axiom} :
    ax ∈ (ofSeed current seed flavour).axioms ↔ ax ∈ current ∧
      ax.isLocal (.covering seed (ofSeed current seed flavour).axioms flavour) = false := by
  constructor
  · intro mem
    exact ⟨(sublist_axioms current seed flavour).subset mem, isLocal_eq_false_of_mem small mem⟩
  · rintro ⟨listed, relevant⟩
    exact closed_ofSeed current seed flavour ax listed relevant

/-- A growth that can use all candidates of another one and reaches all entities of its seed
chooses what that one chooses. -/
theorem ofSeed_subset_ofSeed {current' : List Axiom} {seed' : List Entity}
    (small : AllSmall current) (candidates : current ⊆ current')
    (seeds : ∀ entity ∈ seed,
      entity ∈ Signature.covering seed' (ofSeed current' seed' flavour).axioms flavour) :
    (ofSeed current seed flavour).axioms ⊆ (ofSeed current' seed' flavour).axioms := by
  have closed : Closed current seed flavour (ofSeed current' seed' flavour).axioms := by
    intro ax listed relevant
    apply closed_ofSeed current' seed' flavour ax (candidates listed)
    have part := Signature.covering_partOf seeds (List.Subset.refl _)
    exact part.isLocal_eq_false (small ax listed) relevant
  exact closed.ofSeed_subset small

/-- A growth within more candidates and from more entities chooses no less. -/
theorem ofSeed_mono {current' : List Axiom} {seed' : List Entity} (small : AllSmall current)
    (candidates : current ⊆ current') (seeds : seed ⊆ seed') :
    (ofSeed current seed flavour).axioms ⊆ (ofSeed current' seed' flavour).axioms :=
  ofSeed_subset_ofSeed small candidates fun _ mem =>
    Signature.mem_covering_of_mem_seed (seeds mem)

/-- Growing again within the axioms chosen chooses all of them again. -/
theorem ofSeed_subset_ofSeed_self (small : AllSmall current) :
    (ofSeed current seed flavour).axioms ⊆
      (ofSeed (ofSeed current seed flavour).axioms seed flavour).axioms := by
  have inner := (sublist_axioms (ofSeed current seed flavour).axioms seed flavour).subset
  have closed : Closed current seed flavour
      (ofSeed (ofSeed current seed flavour).axioms seed flavour).axioms := by
    intro ax listed relevant
    have part := Signature.covering_partOf_of_subset seed flavour inner
    have stays := part.isLocal_eq_false (small ax listed) relevant
    have chosen := closed_ofSeed current seed flavour ax listed stays
    exact closed_ofSeed _ seed flavour ax chosen relevant
  exact closed.ofSeed_subset small

/-- The order of the axioms and of the seed matters for the order of the module only. -/
theorem perm_ofSeed_of_perm {current' : List Axiom} {seed' : List Entity}
    (small : AllSmall current) (axioms : current'.Perm current)
    (seeds : seed'.Perm seed) :
    (ofSeed current' seed' flavour).axioms.Perm
      (ofSeed current seed flavour).axioms := by
  apply (isSelection_ofSeed current' seed' flavour).perm
    (isSelection_ofSeed current seed flavour) axioms
  · exact ofSeed_mono (small.mono axioms.subset) axioms.subset seeds.subset
  · exact ofSeed_mono small axioms.symm.subset seeds.symm.subset

end Growth

/-- The kind of the modules that are grown in one flavour. -/
def ModuleKind.ofFlavour : Flavour → ModuleKind
  | .bottom => .bottom
  | .top => .top

namespace Ontology

/-- A module of one flavour is a growth within the logical axioms. -/
theorem extract_ofFlavour (ontology : Ontology) (seed : List Entity) (flavour : Flavour) :
    ontology.extract seed (.ofFlavour flavour) =
      Round.result ⟨flavour, .ofSeed ontology.logicalAxioms seed flavour⟩ := by
  cases flavour with
  | bottom => rfl
  | top => rfl

/-- The logical axioms are the axioms that are logical. -/
theorem mem_logicalAxioms {ontology : Ontology} {ax : Axiom} :
    ax ∈ ontology.logicalAxioms ↔ ax ∈ ontology.axioms ∧ ax.isLogical = true := List.mem_filter

/-- In the ontology of some logical axioms all axioms are logical. -/
theorem logicalAxioms_ofList {ontology : Ontology} {axioms : List Axiom}
    (subset : axioms ⊆ ontology.logicalAxioms) : (ofList axioms).logicalAxioms = axioms := by
  rw [logicalAxioms, axioms_ofList, List.filter_eq_self]
  exact fun ax mem => (mem_logicalAxioms.1 (subset mem)).2

/-- Logical axioms count no more than all axioms. -/
theorem allSmall_logicalAxioms {ontology : Ontology}
    (small : ∀ ax ∈ ontology.axioms, ax.memberCount < Saturating.greatest) :
    AllSmall ontology.logicalAxioms :=
  AllSmall.mono small List.filter_sublist.subset

/-- A chain of classes from `D` up to `C`, not listed in its order. -/
def chainOfClasses : Ontology :=
  ofList [.subClassOf (.named "B") (.named "C"), .subClassOf (.named "D") (.named "A"),
    .subClassOf (.named "A") (.named "B")]

end Ontology

end OntologyModules
