import OntologyModules.Proofs.Extraction.SelfContainment

/-!
# Modules grow with the seed and with the ontology

What is kept whole stays so when the seed grows, and a larger ontology has every selection of a
smaller one, so the largest set that is kept whole can only gain (`IsLargestKept.mono`). The
number of passes and of rounds plays no part in this, and neither does the flavour in which an
alternation ends.
-/

namespace OntologyModules

/-- The largest selection that is kept whole gains from more candidates and from a larger seed. -/
theorem IsLargestKept.mono {flavours : List Flavour} {seed seed' : List Entity}
    {whole whole' part part' : List Axiom} (largest : IsLargestKept flavours seed whole part)
    (largest' : IsLargestKept flavours seed' whole' part') (small : AllSmall whole)
    (candidates : whole ⊆ whole') (seeds : seed ⊆ seed') : part ⊆ part' := by
  have within : part ⊆ whole := largest.selection.subset
  have kept : KeptWhole flavours seed' part := largest.kept.mono_seed (small.mono within) seeds
  exact largest'.largest part (List.Subset.trans within candidates) kept

namespace Ontology

/-- An ontology that has all axioms of another one has all of its logical axioms. -/
theorem logicalAxioms_subset {ontology larger : Ontology}
    (axioms : ontology.axioms ⊆ larger.axioms) :
    ontology.logicalAxioms ⊆ larger.logicalAxioms := by
  intro ax mem
  obtain ⟨listed, logical⟩ := mem_logicalAxioms.1 mem
  exact mem_logicalAxioms.2 ⟨axioms listed, logical⟩

/-- From more axioms and a larger seed no axiom is lost from the module and no entity from its
signature. -/
theorem extract_monotone (ontology larger : Ontology) (seed seed' : List Entity)
    (kind : ModuleKind) (small : ∀ ax ∈ larger.axioms, ax.memberCount < Saturating.greatest)
    (axioms : ontology.axioms ⊆ larger.axioms) (seeds : seed ⊆ seed') :
    (ontology.extract seed kind).axioms ⊆ (larger.extract seed' kind).axioms ∧
    ∀ entity ∈ (ontology.extract seed kind).signature,
      entity ∈ (larger.extract seed' kind).signature := by
  have candidates : ontology.logicalAxioms ⊆ larger.logicalAxioms := logicalAxioms_subset axioms
  have few' : AllSmall larger.logicalAxioms := allSmall_logicalAxioms small
  have few : AllSmall ontology.logicalAxioms := few'.mono candidates
  have gained : (ontology.extract seed kind).axioms ⊆ (larger.extract seed' kind).axioms :=
    (ontology.isLargestKept_extract seed kind few).mono
      (larger.isLargestKept_extract seed' kind few') few candidates seeds
  refine ⟨gained, ?_⟩
  -- The last rounds may have different flavours, which matter for the reading only.
  obtain ⟨flavour, signature⟩ := ontology.exists_signature_extract seed kind
  obtain ⟨flavour', signature'⟩ := larger.exists_signature_extract seed' kind
  rw [signature, signature']
  intro entity mem
  rcases Signature.mem_covering.1 mem with inSeed | ⟨ax, within, mention⟩
  · exact Signature.mem_covering_of_mem_seed (seeds inSeed)
  · exact Signature.mem_covering_of_mentions (gained within) mention

/-- The star module of one equivalence is found again beside a second one and a class above, from
a seed that has the class above as well. -/
theorem extract_monotone_of_equivalences :
    .equivalentClasses [.named "A", .named "B"] ∈
      (chainOfEquivalences.extract [⟨.namedClass, "D"⟩, ⟨.namedClass, "A"⟩] .star).axioms ∧
    ⟨.namedClass, "B"⟩ ∈
      (chainOfEquivalences.extract [⟨.namedClass, "D"⟩, ⟨.namedClass, "A"⟩] .star).signature := by
  obtain ⟨axioms, entities⟩ := extract_monotone
    (ofList [.equivalentClasses [.named "A", .named "B"]]) chainOfEquivalences
    [⟨.namedClass, "A"⟩] [⟨.namedClass, "D"⟩, ⟨.namedClass, "A"⟩] .star (by decide) (by decide)
    (by decide)
  exact ⟨axioms (by decide +kernel), entities _ (by decide +kernel)⟩

end Ontology

end OntologyModules
