import OntologyModules.Proofs.Extraction.Fixpoint

/-!
# Modules are the largest stable sets

Some axioms are kept whole by a flavour when growing the seed within them drops none of them. A
module of any kind is the largest selection of the candidates that all flavours of its kind keep
whole (`Ontology.isLargestKept_extract`). For one flavour this is the least fixed point seen from
above; for star modules each round keeps every set that all flavours keep whole, and the last two
rounds kept all that they were given. Since there is one largest such set at most, it does not
matter which flavour an alternation begins with.
-/

namespace OntologyModules

/-- Growing the seed within the axioms drops none of them, in any of the flavours. -/
def KeptWhole (flavours : List Flavour) (seed : List Entity) (axioms : List Axiom) : Prop :=
  ∀ flavour ∈ flavours, axioms ⊆ (Growth.ofSeed axioms seed flavour).axioms

/-- The part is the largest selection from the whole that is kept whole. -/
structure IsLargestKept (flavours : List Flavour) (seed : List Entity)
    (whole part : List Axiom) : Prop where
  /-- The part is a selection. -/
  selection : IsSelection part whole
  /-- The part is kept whole. -/
  kept : KeptWhole flavours seed part
  /-- The part has everything that is kept whole. -/
  largest : ∀ others ⊆ whole, KeptWhole flavours seed others → others ⊆ part

namespace KeptWhole

variable {flavours : List Flavour} {flavour : Flavour} {seed seed' : List Entity}
  {axioms current part others : List Axiom}

/-- Axioms are kept whole when each growth within them returns them. -/
theorem iff_ofSeed_eq : KeptWhole flavours seed axioms ↔
    ∀ flavour ∈ flavours, (Growth.ofSeed axioms seed flavour).axioms = axioms := by
  constructor
  · intro kept flavour mem
    exact (Growth.isSelection_ofSeed axioms seed flavour).eq_whole (kept flavour mem)
  · intro same flavour mem
    rw [same flavour mem]
    exact List.Subset.refl axioms

/-- What is kept whole is kept by a growth within more axioms. -/
theorem subset_ofSeed (kept : KeptWhole flavours seed axioms) (small : AllSmall current)
    (subset : axioms ⊆ current) (mem : flavour ∈ flavours) :
    axioms ⊆ (Growth.ofSeed current seed flavour).axioms := by
  apply List.Subset.trans (kept flavour mem)
  exact Growth.ofSeed_mono (small.mono subset) subset (List.Subset.refl seed)

/-- What is kept whole for a seed is kept whole for a larger one. -/
theorem mono_seed (kept : KeptWhole flavours seed axioms) (small : AllSmall axioms)
    (more : seed ⊆ seed') : KeptWhole flavours seed' axioms := by
  intro flavour mem
  apply List.Subset.trans (kept flavour mem)
  exact Growth.ofSeed_mono small (List.Subset.refl axioms) more

/-- What is kept whole for a seed that some other axioms cover is kept whole together with them:
the growth of the other axioms reaches the seed. -/
theorem append (kept : KeptWhole flavours seed part) (kept' : KeptWhole flavours seed' others)
    (small : AllSmall (part ++ others))
    (covered : ∀ entity ∈ seed', entity ∈ Signature.covering seed part flavour) :
    KeptWhole flavours seed (part ++ others) := by
  intro flavour mem
  have first : part ⊆ (Growth.ofSeed (part ++ others) seed flavour).axioms :=
    kept.subset_ofSeed small (List.subset_append_left part others) mem
  have second : others ⊆ (Growth.ofSeed (part ++ others) seed flavour).axioms := by
    apply List.Subset.trans (kept' flavour mem)
    apply Growth.ofSeed_subset_ofSeed (small.mono (List.subset_append_right part others))
      (List.subset_append_right part others)
    exact fun entity inSeed => Signature.mem_covering_of_subset first (covered entity inSeed)
  exact List.append_subset.2 ⟨first, second⟩

end KeptWhole

namespace IsLargestKept

variable {flavours : List Flavour} {seed : List Entity} {whole part other : List Axiom}

/-- There is one largest selection that is kept whole. -/
theorem unique (largest : IsLargestKept flavours seed whole part)
    (largest' : IsLargestKept flavours seed whole other) : part = other := by
  apply largest.selection.eq_of_subset largest'.selection
  · exact largest'.largest part largest.selection.subset largest.kept
  · exact largest.largest other largest'.selection.subset largest'.kept

/-- The largest selection that is kept whole is a part of every growth in its flavours. -/
theorem sublist_ofSeed (largest : IsLargestKept flavours seed whole part) (small : AllSmall whole)
    {flavour : Flavour} (mem : flavour ∈ flavours) :
    part.Sublist (Growth.ofSeed whole seed flavour).axioms := by
  apply largest.selection.sublist_of_subset (Growth.isSelection_ofSeed whole seed flavour)
  exact largest.kept.subset_ofSeed small largest.selection.subset mem

end IsLargestKept

/-- A growth is the largest selection that its flavour keeps whole. -/
theorem Growth.isLargestKept_ofSeed {current : List Axiom} (seed : List Entity)
    (flavour : Flavour) (small : AllSmall current) :
    IsLargestKept [flavour] seed current (ofSeed current seed flavour).axioms where
  selection := isSelection_ofSeed current seed flavour
  kept := by
    intro other mem
    obtain rfl := List.mem_singleton.1 mem
    exact ofSeed_subset_ofSeed_self small
  largest := fun _ subset kept => kept.subset_ofSeed small subset (List.mem_singleton_self flavour)

/-- Both flavours, in the order in which they alternate. -/
def Flavour.both : List Flavour := [bottom, top]

/-- Every flavour is one of both. -/
theorem Flavour.mem_both (flavour : Flavour) : flavour ∈ both := by
  cases flavour with
  | bottom => exact List.mem_cons_self
  | top => exact List.mem_cons_of_mem bottom List.mem_cons_self

/-- Of both flavours, each is the given one or its opposite. -/
theorem Flavour.eq_or_eq_opposite (flavour other : Flavour) :
    other = flavour ∨ other = flavour.opposite := by
  cases flavour <;> cases other <;> decide

/-- The opposite of the opposite flavour is the flavour. -/
theorem Flavour.opposite_opposite (flavour : Flavour) : flavour.opposite.opposite = flavour := by
  cases flavour <;> rfl

namespace Alternation

variable {seed : List Entity} {flavour : Flavour} {settled : Bool} {current others : List Axiom}

/-- What the rounds end with is kept whole, provided that a settled alternation starts from axioms
that the opposite flavour keeps whole. -/
theorem keptWhole_last (small : AllSmall current)
    (start : settled = true → current ⊆ (Growth.ofSeed current seed flavour.opposite).axioms) :
    KeptWhole Flavour.both seed (continueFrom seed flavour settled current).last.growth.axioms := by
  fun_induction continueFrom seed flavour settled current with
  | case1 flavour settled current growth kept ends =>
    show KeptWhole Flavour.both seed growth.axioms
    rcases Bool.or_eq_true_iff.1 ends with none | stays
    · rw [List.isEmpty_iff.1 none]
      exact fun _ _ => List.nil_subset _
    · obtain ⟨unchanged, settled⟩ := Bool.and_eq_true_iff.1 stays
      have same : growth.axioms = current :=
        Growth.axioms_eq_of_length seed flavour current unchanged
      intro other _
      rcases flavour.eq_or_eq_opposite other with rfl | rfl
      · exact Growth.ofSeed_subset_ofSeed_self small
      · rw [same]
        exact start settled
  | case2 flavour settled current growth kept _ next ih =>
    rw [last_cons]
    have subset : growth.axioms ⊆ current := (Growth.sublist_axioms current seed flavour).subset
    apply ih (small.mono subset)
    -- A growth keeps what it has returned, so the next round may count on the flavour of this one.
    intro _
    rw [flavour.opposite_opposite]
    exact Growth.ofSeed_subset_ofSeed_self small

/-- Every round keeps what both flavours keep whole. -/
theorem mem_last (kept : KeptWhole Flavour.both seed others) (small : AllSmall current)
    (within : others ⊆ current) {ax : Axiom} (mem : ax ∈ others) :
    ax ∈ (continueFrom seed flavour settled current).last.growth.axioms := by
  fun_induction continueFrom seed flavour settled current with
  | case1 flavour settled current => exact kept.subset_ofSeed small within flavour.mem_both mem
  | case2 flavour settled current growth unchanged goesOn next ih =>
    rw [last_cons]
    have fewer : growth.axioms ⊆ current := (Growth.sublist_axioms current seed flavour).subset
    exact ih (small.mono fewer) (kept.subset_ofSeed small within flavour.mem_both)

/-- An alternation ends with the largest selection that both flavours keep whole, whichever of
them is the first. -/
theorem isLargestKept_last (seed : List Entity) (flavour : Flavour) (small : AllSmall current) :
    IsLargestKept Flavour.both seed current
      (continueFrom seed flavour false current).last.growth.axioms where
  selection := isSelection_last seed flavour false current
  kept := keptWhole_last small fun settled => absurd settled Bool.false_ne_true
  largest := fun _ within kept _ mem => mem_last kept small within mem

end Alternation

/-- The flavours in which modules of a kind are grown. -/
def ModuleKind.flavours : ModuleKind → List Flavour
  | .bottom => [.bottom]
  | .top => [.top]
  | .star => Flavour.both

namespace Ontology

/-- A module is the largest selection of the logical axioms that its flavours keep whole. -/
theorem isLargestKept_extract (ontology : Ontology) (seed : List Entity) (kind : ModuleKind)
    (small : AllSmall ontology.logicalAxioms) :
    IsLargestKept kind.flavours seed ontology.logicalAxioms
      (ontology.extract seed kind).axioms := by
  cases kind with
  | bottom => exact Growth.isLargestKept_ofSeed seed .bottom small
  | top => exact Growth.isLargestKept_ofSeed seed .top small
  | star => exact Alternation.isLargestKept_last seed .bottom small

/-- A growth within some logical axioms is a module of the ontology that consists of them. -/
theorem axioms_extract_ofList {ontology : Ontology} {others : List Axiom} (seed : List Entity)
    (flavour : Flavour) (within : others ⊆ ontology.logicalAxioms) :
    ((ofList others).extract seed (.ofFlavour flavour)).axioms =
      (Growth.ofSeed others seed flavour).axioms := by
  rw [extract_ofFlavour, logicalAxioms_ofList within]
  rfl

/-- The star module of a seed is kept whole by both flavours and has every set of logical axioms
that both flavours keep whole. It lies within the bottom module and within the top module, and
an alternation that begins with the top flavour ends with the same axioms. -/
theorem extract_star_greatest (ontology : Ontology) (seed : List Entity)
    (small : ∀ ax ∈ ontology.axioms, ax.memberCount < Saturating.greatest) :
    ((ofList (ontology.extract seed .star).axioms).extract seed .bottom).axioms =
      (ontology.extract seed .star).axioms ∧
    ((ofList (ontology.extract seed .star).axioms).extract seed .top).axioms =
      (ontology.extract seed .star).axioms ∧
    (∀ others ⊆ ontology.logicalAxioms,
      ((ofList others).extract seed .bottom).axioms = others →
      ((ofList others).extract seed .top).axioms = others →
        others ⊆ (ontology.extract seed .star).axioms) ∧
    (ontology.extract seed .star).axioms.Sublist (ontology.extract seed .bottom).axioms ∧
    (ontology.extract seed .star).axioms.Sublist (ontology.extract seed .top).axioms ∧
    (Alternation.continueFrom seed .top false ontology.logicalAxioms).last.growth.axioms =
      (ontology.extract seed .star).axioms := by
  have few := allSmall_logicalAxioms small
  have largest := ontology.isLargestKept_extract seed .star few
  have within := largest.selection.subset
  have grown (flavour : Flavour) :
      ((ofList (ontology.extract seed .star).axioms).extract seed (.ofFlavour flavour)).axioms =
        (ontology.extract seed .star).axioms := by
    rw [axioms_extract_ofList seed flavour within]
    exact KeptWhole.iff_ofSeed_eq.1 largest.kept flavour flavour.mem_both
  refine ⟨grown .bottom, grown .top, ?_, largest.sublist_ofSeed few (Flavour.mem_both .bottom),
    largest.sublist_ofSeed few (Flavour.mem_both .top),
    (Alternation.isLargestKept_last seed .top few).unique largest⟩
  intro others logical bottom top
  apply largest.largest others logical
  apply KeptWhole.iff_ofSeed_eq.2
  intro flavour _
  rw [← axioms_extract_ofList seed flavour logical]
  cases flavour with
  | bottom => exact bottom
  | top => exact top

/-- Of a chain of classes the star module keeps the axiom between the names of the seed: bottom
growth drops the one below, and top growth drops the one above. -/
theorem extract_star_greatest_between_names :
    [.subClassOf (.named "A") (.named "B")] ⊆
      (chainOfClasses.extract [⟨.namedClass, "A"⟩, ⟨.namedClass, "B"⟩] .star).axioms ∧
    (chainOfClasses.extract [⟨.namedClass, "A"⟩, ⟨.namedClass, "B"⟩] .star).axioms.Sublist
      (chainOfClasses.extract [⟨.namedClass, "A"⟩, ⟨.namedClass, "B"⟩] .top).axioms := by
  obtain ⟨-, -, greatest, -, withinTop, -⟩ := extract_star_greatest chainOfClasses
    [⟨.namedClass, "A"⟩, ⟨.namedClass, "B"⟩] (by decide)
  exact ⟨greatest _ (by decide) (by decide +kernel) (by decide +kernel), withinTop⟩

end Ontology

end OntologyModules
