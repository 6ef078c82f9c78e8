import OntologyModules.Proofs.Extraction.Stability

/-!
# Modules are self-contained and depleting

The signature of a module says no more than its seed: a seed between the two has the same module,
within the ontology and within the module (`IsLargestKept.of_covered`). What a module leaves out
says nothing about its signature: within the rest, the module of the signature is empty
(`IsLargestKept.eq_nil_of_left_out`). Both follow from one fact about the largest set that is
kept whole: it has all that is kept whole for any seed that it covers
(`IsLargestKept.subset_of_covered`), since such a set can be added to it.
-/

namespace OntologyModules

namespace IsLargestKept

variable {flavours : List Flavour} {flavour : Flavour} {seed seed' : List Entity}
  {whole part others : List Axiom}

/-- The largest selection that is kept whole has all that is kept whole for a seed it covers. -/
theorem subset_of_covered (largest : IsLargestKept flavours seed whole part)
    (small : AllSmall whole) (within : others ⊆ whole) (kept : KeptWhole flavours seed' others)
    (covered : ∀ entity ∈ seed', entity ∈ Signature.covering seed part flavour) :
    others ⊆ part := by
  have together : part ++ others ⊆ whole :=
    List.append_subset.2 ⟨largest.selection.subset, within⟩
  have keptTogether : KeptWhole flavours seed (part ++ others) :=
    largest.kept.append kept (small.mono together) covered
  have subset := largest.largest (part ++ others) together keptTogether
  exact (List.append_subset.1 subset).2

/-- The largest selection that is kept whole stays the largest one for a larger seed that it
covers. -/
theorem of_covered (largest : IsLargestKept flavours seed whole part) (small : AllSmall whole)
    (more : seed ⊆ seed')
    (covered : ∀ entity ∈ seed', entity ∈ Signature.covering seed part flavour) :
    IsLargestKept flavours seed' whole part where
  selection := largest.selection
  kept := largest.kept.mono_seed (small.mono largest.selection.subset) more
  largest := fun _ within kept => largest.subset_of_covered small within kept covered

/-- The largest selection that is kept whole is the largest one within itself. -/
theorem within_self (largest : IsLargestKept flavours seed whole part) :
    IsLargestKept flavours seed part part where
  selection := .refl part
  kept := largest.kept
  largest := fun _ within _ => within

/-- Nothing is kept whole, for a seed that the largest selection covers, among axioms that the
selection leaves out. -/
theorem eq_nil_of_left_out {rest : List Axiom} (largest : IsLargestKept flavours seed whole part)
    (small : AllSmall whole) (within : rest ⊆ whole) (leftOut : ∀ ax ∈ rest, ax ∉ part)
    (covered : ∀ entity ∈ seed', entity ∈ Signature.covering seed part flavour)
    (largestOfRest : IsLargestKept flavours seed' rest others) : others = [] := by
  have inRest : others ⊆ rest := largestOfRest.selection.subset
  have inWhole : others ⊆ whole := List.Subset.trans inRest within
  have inPart : others ⊆ part :=
    largest.subset_of_covered small inWhole largestOfRest.kept covered
  apply List.eq_nil_iff_forall_not_mem.2
  intro ax mem
  exact leftOut ax (inRest mem) (inPart mem)

end IsLargestKept

namespace Ontology

/-- Two equivalences that share a name, and a class above. -/
def chainOfEquivalences : Ontology :=
  ofList [.equivalentClasses [.named "A", .named "B"],
    .equivalentClasses [.named "B", .named "C"], .subClassOf (.named "C") (.named "D")]

/-- A seed that extends the first one by entities of the signature of its module has the same
module, within the ontology and within the module. -/
theorem extract_self_contained (ontology : Ontology) (seed seed' : List Entity)
    (kind : ModuleKind) (small : ∀ ax ∈ ontology.axioms, ax.memberCount < Saturating.greatest)
    (more : seed ⊆ seed')
    (within : ∀ entity ∈ seed', entity ∈ (ontology.extract seed kind).signature) :
    (ontology.extract seed' kind).axioms = (ontology.extract seed kind).axioms ∧
    ((ofList (ontology.extract seed kind).axioms).extract seed' kind).axioms =
      (ontology.extract seed kind).axioms := by
  have few := allSmall_logicalAxioms small
  obtain ⟨flavour, signature⟩ := ontology.exists_signature_extract seed kind
  rw [signature] at within
  have largest := ontology.isLargestKept_extract seed kind few
  have largest' : IsLargestKept kind.flavours seed' ontology.logicalAxioms
      (ontology.extract seed kind).axioms := largest.of_covered few more within
  constructor
  · exact (ontology.isLargestKept_extract seed' kind few).unique largest'
  · have same : (ofList (ontology.extract seed kind).axioms).logicalAxioms =
        (ontology.extract seed kind).axioms :=
      logicalAxioms_ofList largest.selection.subset
    have inside := (ofList (ontology.extract seed kind).axioms).isLargestKept_extract seed' kind
    rw [same] at inside
    exact (inside (few.mono largest.selection.subset)).unique largest'.within_self

/-- The name at the far end of two equivalences may join the seed of a star module. -/
theorem extract_self_contained_of_equivalences :
    (chainOfEquivalences.extract [⟨.namedClass, "A"⟩, ⟨.namedClass, "C"⟩] .star).axioms =
      (chainOfEquivalences.extract [⟨.namedClass, "A"⟩] .star).axioms ∧
    ((ofList (chainOfEquivalences.extract [⟨.namedClass, "A"⟩] .star).axioms).extract
        [⟨.namedClass, "A"⟩, ⟨.namedClass, "C"⟩] .star).axioms =
      (chainOfEquivalences.extract [⟨.namedClass, "A"⟩] .star).axioms := by
  have within : ∀ entity ∈ ([⟨.namedClass, "A"⟩, ⟨.namedClass, "C"⟩] : List Entity),
      entity ∈ (chainOfEquivalences.extract [⟨.namedClass, "A"⟩] .star).signature := by
    decide +kernel
  exact extract_self_contained chainOfEquivalences _ _ .star (by decide) (by decide) within

/-- The ontology of the axioms that are not among the given ones. -/
def without (ontology : Ontology) (axioms : List Axiom) : Ontology :=
  ofList (ontology.axioms.filter (· ∉ axioms))

/-- The logical axioms that are left are those that are not among the given ones. -/
theorem mem_logicalAxioms_without {ontology : Ontology} {axioms : List Axiom} {ax : Axiom} :
    ax ∈ (ontology.without axioms).logicalAxioms ↔ ax ∈ ontology.logicalAxioms ∧ ax ∉ axioms := by
  rw [mem_logicalAxioms, mem_logicalAxioms, without, axioms_ofList, List.mem_filter,
    decide_eq_true_eq, and_right_comm]

/-- The module of the signature of a module, within the axioms that the module leaves out, is
empty. For a module of one flavour, each logical axiom left out is local for the signature. -/
theorem extract_depleting (ontology : Ontology) (seed : List Entity) (kind : ModuleKind)
    (small : ∀ ax ∈ ontology.axioms, ax.memberCount < Saturating.greatest)
    (known : List Entity)
    (lists : ∀ entity, entity ∈ known ↔ entity ∈ (ontology.extract seed kind).signature) :
    ((ontology.without (ontology.extract seed kind).axioms).extract known kind).axioms = [] ∧
    ∀ flavour, kind = .ofFlavour flavour → ∀ ax ∈ ontology.logicalAxioms,
      ax ∉ (ontology.extract seed kind).axioms →
        ax.isLocal (ontology.extract seed kind).signature = true := by
  have few := allSmall_logicalAxioms small
  constructor
  · have within : (ontology.without (ontology.extract seed kind).axioms).logicalAxioms ⊆
        ontology.logicalAxioms := fun _ mem => (mem_logicalAxioms_without.1 mem).1
    obtain ⟨flavour, signature⟩ := ontology.exists_signature_extract seed kind
    rw [signature] at lists
    have largest := ontology.isLargestKept_extract seed kind few
    apply largest.eq_nil_of_left_out few within
      (fun _ mem => (mem_logicalAxioms_without.1 mem).2) (fun entity mem => (lists entity).1 mem)
    exact isLargestKept_extract _ known kind (few.mono within)
  · rintro flavour rfl ax logical leftOut
    rw [extract_ofFlavour] at leftOut ⊢
    exact Growth.isLocal_of_not_mem seed flavour ontology.logicalAxioms logical leftOut

/-- The names of a star module do not bring back the class above them. -/
theorem extract_depleting_of_equivalences :
    ((chainOfEquivalences.without
        (chainOfEquivalences.extract [⟨.namedClass, "A"⟩] .star).axioms).extract
      (chainOfEquivalences.extract [⟨.namedClass, "A"⟩] .star).signature.toList
        .star).axioms = [] ∧
    Axiom.isLocal (chainOfClasses.extract [⟨.namedClass, "A"⟩] .bottom).signature
      (.subClassOf (.named "D") (.named "A")) = true := by
  have star := extract_depleting chainOfEquivalences [⟨.namedClass, "A"⟩] .star (by decide)
    _ (fun _ => Signature.mem_toList)
  have bottom := extract_depleting chainOfClasses [⟨.namedClass, "A"⟩] .bottom (by decide)
    _ (fun _ => Signature.mem_toList)
  exact ⟨star.1, bottom.2 .bottom rfl _ (by decide) (by decide +kernel)⟩

end Ontology

end OntologyModules
