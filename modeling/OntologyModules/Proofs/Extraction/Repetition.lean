import OntologyModules.Proofs.Extraction.SelfContainment

/-!
# Extracting again from a module

All flavours of its kind keep a module whole, so extracting the same seed again, now from the
axioms of the module, drops none of them: axioms and entities are the same
(`Ontology.extract_of_keptWhole`). The signature has the flavour of the last round besides. For star
modules that flavour depends on which rounds dropped something: an alternation that drops nothing
is over after a bottom round and a top round, while the first extraction may have ended with a
bottom round. The two signatures then differ in the flavour and in nothing else
(`Ontology.not_extractAgain_eq_below_dropped_class`).
-/

namespace OntologyModules

/-- The flavour of the last round of an extraction that drops none of the axioms. -/
def ModuleKind.restingFlavour : ModuleKind → List Axiom → Flavour
  | .bottom, _ => .bottom
  | .top, _ => .top
  | .star, axioms => if axioms = [] then .bottom else .top

namespace Alternation

/-- The last round is the first one, if that leaves nothing or is the second in a row that keeps
everything, and otherwise the last of the rounds that follow. -/
theorem last_continueFrom (seed : List Entity) (flavour : Flavour) (settled : Bool)
    (current : List Axiom) {growth : Growth} (grown : growth = .ofSeed current seed flavour) :
    (continueFrom seed flavour settled current).last =
      if growth.axioms.isEmpty || growth.axioms.length == current.length && settled then
        ⟨flavour, growth⟩
      else
        (continueFrom seed flavour.opposite (growth.axioms.length == current.length)
          growth.axioms).last := by
  rw [grown, continueFrom]
  split
  · rfl
  · exact last_cons _ _

/-- Within axioms that both flavours keep whole, the bottom round is followed by a top round, which
is the last, unless there are no axioms. -/
theorem last_ofSeed_of_keptWhole {seed : List Entity} {axioms : List Axiom}
    (kept : KeptWhole Flavour.both seed axioms) :
    (ofSeed axioms seed).last = ⟨ModuleKind.star.restingFlavour axioms,
      .ofSeed axioms seed (ModuleKind.star.restingFlavour axioms)⟩ := by
  have same (flavour : Flavour) : (Growth.ofSeed axioms seed flavour).axioms = axioms :=
    KeptWhole.iff_ofSeed_eq.1 kept flavour flavour.mem_both
  by_cases empty : axioms = []
  · have resting : ModuleKind.star.restingFlavour axioms = .bottom := if_pos empty
    have ends : (axioms.isEmpty || axioms.length == axioms.length && false) = true := by
      simp [empty]
    rw [resting, ofSeed, last_continueFrom seed .bottom false axioms rfl, same, if_pos ends]
  · have resting : ModuleKind.star.restingFlavour axioms = .top := if_neg empty
    have goesOn : ¬(axioms.isEmpty || axioms.length == axioms.length && false) = true := by
      simp [empty]
    have ends : (axioms.isEmpty || axioms.length == axioms.length && true) = true := by simp
    rw [resting, ofSeed, last_continueFrom seed .bottom false axioms rfl, same, if_neg goesOn,
      beq_self_eq_true, Flavour.opposite, last_continueFrom seed .top true axioms rfl, same,
      if_pos ends]

end Alternation

namespace Ontology

variable {ontology : Ontology} {seed : List Entity} {kind : ModuleKind}

/-- An extraction that starts from axioms that its flavours keep whole drops none of them. -/
theorem extract_of_keptWhole (kept : KeptWhole kind.flavours seed ontology.logicalAxioms) :
    ontology.extract seed kind =
      ⟨ontology.logicalAxioms,
        .covering seed ontology.logicalAxioms (kind.restingFlavour ontology.logicalAxioms)⟩ := by
  have grown {flavour : Flavour} (mem : flavour ∈ kind.flavours) :
      Round.result ⟨flavour, .ofSeed ontology.logicalAxioms seed flavour⟩ =
        ⟨ontology.logicalAxioms, .covering seed ontology.logicalAxioms flavour⟩ := by
    have same := KeptWhole.iff_ofSeed_eq.1 kept flavour mem
    rw [Round.result, Growth.signature_ofSeed, same]
  cases kind with
  | bottom => exact grown (List.mem_singleton_self _)
  | top => exact grown (List.mem_singleton_self _)
  | star =>
    calc
      ontology.extract seed .star
        = (Alternation.ofSeed ontology.logicalAxioms seed).last.result := rfl
      _ = _ := congrArg Round.result (Alternation.last_ofSeed_of_keptWhole kept)
      _ = _ := grown (Flavour.mem_both _)

/-- The module of the same seed from the axioms of its module. -/
def extractAgain (ontology : Ontology) (seed : List Entity) (kind : ModuleKind) : Module :=
  (ofList (ontology.extract seed kind).axioms).extract seed kind

/-- Extracting again drops nothing. -/
theorem extractAgain_eq (ontology : Ontology) (seed : List Entity) (kind : ModuleKind)
    (small : AllSmall ontology.logicalAxioms) :
    ontology.extractAgain seed kind =
      ⟨(ontology.extract seed kind).axioms, .covering seed (ontology.extract seed kind).axioms
        (kind.restingFlavour (ontology.extract seed kind).axioms)⟩ := by
  have largest := ontology.isLargestKept_extract seed kind small
  have same : (ofList (ontology.extract seed kind).axioms).logicalAxioms =
      (ontology.extract seed kind).axioms :=
    logicalAxioms_ofList largest.selection.subset
  have kept := largest.kept
  rw [← same] at kept
  rw [extractAgain, extract_of_keptWhole kept, same]

/-- The same module is extracted again if its signature has the flavour of an extraction that drops
nothing. -/
theorem extractAgain_eq_iff_convention (small : AllSmall ontology.logicalAxioms) :
    ontology.extractAgain seed kind = ontology.extract seed kind ↔
      (ontology.extract seed kind).signature.convention =
        .uniform (kind.restingFlavour (ontology.extract seed kind).axioms) := by
  have again := ontology.extractAgain_eq seed kind small
  obtain ⟨flavour, signature⟩ := ontology.exists_signature_extract seed kind
  constructor
  · intro same
    rw [← same, again]
    rfl
  · intro convention
    have resting : kind.restingFlavour (ontology.extract seed kind).axioms = flavour := by
      rw [signature] at convention
      exact (congrArg Convention.classes convention).symm
    rw [again, resting, ← signature]

/-- Extracting again from the axioms of a module gives the same axioms and the same entities. It
gives the same signature, and so the same module, except for a star module whose extraction ended
with a bottom round although axioms were left, or with a top round when none was left. -/
theorem extractAgain_eq_extract_iff (ontology : Ontology) (seed : List Entity) (kind : ModuleKind)
    (small : ∀ ax ∈ ontology.axioms, ax.memberCount < Saturating.greatest) :
    (ontology.extractAgain seed kind).axioms = (ontology.extract seed kind).axioms ∧
    (∀ entity, entity ∈ (ontology.extractAgain seed kind).signature ↔
      entity ∈ (ontology.extract seed kind).signature) ∧
    (ontology.extractAgain seed kind = ontology.extract seed kind ↔
      (kind = .star → (ontology.extract seed .star).signature.convention =
        .uniform (if (ontology.extract seed .star).axioms = [] then .bottom else .top))) := by
  have few := allSmall_logicalAxioms small
  have again := ontology.extractAgain_eq seed kind few
  obtain ⟨flavour, signature⟩ := ontology.exists_signature_extract seed kind
  refine ⟨by rw [again], fun entity => ?_, ?_⟩
  · rw [again, signature, Signature.mem_covering, Signature.mem_covering]
  · rw [extractAgain_eq_iff_convention few]
    cases kind with
    | bottom => exact ⟨fun _ => nofun, fun _ => congrArg Signature.convention
        (Growth.signature_ofSeed seed .bottom ontology.logicalAxioms)⟩
    | top => exact ⟨fun _ => nofun, fun _ => congrArg Signature.convention
        (Growth.signature_ofSeed seed .top ontology.logicalAxioms)⟩
    | star => exact ⟨fun convention _ => convention, fun convention => convention rfl⟩

/-- Of the chain of classes, whose alternation drops an axiom in the top round and ends with another
one, the star module between two names is extracted again. -/
theorem extractAgain_eq_extract_of_chain :
    chainOfClasses.extractAgain [⟨.namedClass, "A"⟩, ⟨.namedClass, "B"⟩] .star =
      chainOfClasses.extract [⟨.namedClass, "A"⟩, ⟨.namedClass, "B"⟩] .star := by
  obtain ⟨-, -, same⟩ := extractAgain_eq_extract_iff chainOfClasses
    [⟨.namedClass, "A"⟩, ⟨.namedClass, "B"⟩] .star (by decide)
  exact same.2 fun _ => by decide +kernel

/-- A class between two names, and one below them. -/
def classBelowNames : Ontology :=
  ofList [.subClassOf (.named "A") (.named "B"), .subClassOf (.named "D") (.named "A")]

/-- The class below the names is dropped in the first bottom round and nothing afterwards, so that
the alternation ends with a bottom round; from the axiom that is left it ends with a top round. -/
theorem not_extractAgain_eq_below_dropped_class :
    (classBelowNames.extract [⟨.namedClass, "A"⟩, ⟨.namedClass, "B"⟩] .star).axioms =
      [.subClassOf (.named "A") (.named "B")] ∧
    (classBelowNames.extractAgain [⟨.namedClass, "A"⟩, ⟨.namedClass, "B"⟩] .star).axioms =
      [.subClassOf (.named "A") (.named "B")] ∧
    (classBelowNames.extractAgain [⟨.namedClass, "A"⟩, ⟨.namedClass, "B"⟩] .star).signature ≠
      (classBelowNames.extract [⟨.namedClass, "A"⟩, ⟨.namedClass, "B"⟩] .star).signature ∧
    ∀ ax ∈ classBelowNames.axioms, ax.memberCount < Saturating.greatest := by
  refine ⟨by decide +kernel, by decide +kernel, by decide +kernel, by decide⟩

end Ontology

end OntologyModules
