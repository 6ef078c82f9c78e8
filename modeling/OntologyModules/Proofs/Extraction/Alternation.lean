import OntologyModules.Extraction
import OntologyModules.Proofs.Extraction.Growth

/-!
# What an alternation ends with

Every round of an alternation is a growth of the seed within what the round before left, so each
round chooses from the candidates and its signature is that of the seed and of the axioms it
chose. A module, whatever its kind, is the outcome of its last round.
-/

namespace OntologyModules

namespace Round

/-- The round grew from the seed within the given axioms. -/
def GrewWithin (round : Round) (seed : List Entity) (current : List Axiom) : Prop :=
  round.growth = .ofSeed current seed round.flavour

variable {round : Round} {seed : List Entity} {current : List Axiom}

/-- A round chooses some of the axioms that it is given. -/
theorem GrewWithin.sublist (grew : round.GrewWithin seed current) :
    round.growth.axioms.Sublist current := by
  rw [grew]
  exact Growth.sublist_axioms current seed round.flavour

/-- A round ends with the signature of the seed and the axioms chosen. -/
theorem GrewWithin.signature (grew : round.GrewWithin seed current) :
    round.growth.signature = .covering seed round.growth.axioms round.flavour := by
  rw [grew]
  exact Growth.signature_ofSeed seed round.flavour current

end Round

namespace Alternation

/-- The round put first is not the last one. -/
theorem last_cons (round : Round) (next : Alternation) :
    last ⟨round, next.rounds⟩ = next.last := by
  rw [last, rounds, List.getLastD_cons, last]

/-- The last round is one of the rounds. -/
theorem last_mem_rounds (alternation : Alternation) : alternation.last ∈ alternation.rounds :=
  List.getLastD_mem_cons

/-- Every round grew within some of the candidates. -/
theorem exists_grewWithin (seed : List Entity) (flavour : Flavour) (settled : Bool)
    (current : List Axiom) :
    ∀ round ∈ (continueFrom seed flavour settled current).rounds,
      ∃ left : List Axiom, left.Sublist current ∧ round.GrewWithin seed left := by
  fun_induction continueFrom seed flavour settled current with
  | case1 flavour settled current =>
    exact List.forall_mem_singleton.2 ⟨current, .refl current, rfl⟩
  | case2 flavour settled current _ _ _ _ ih =>
    refine List.forall_mem_cons.2 ⟨⟨current, .refl current, rfl⟩, fun round mem => ?_⟩
    obtain ⟨left, part, grew⟩ := ih round mem
    exact ⟨left, part.trans (Growth.sublist_axioms current seed flavour), grew⟩

end Alternation

namespace Ontology

variable (ontology : Ontology) (seed : List Entity) (kind : ModuleKind)

/-- Every round of an extraction grew within some of the logical axioms. -/
theorem exists_grewWithin_extraction : ∀ round ∈ (ontology.extraction seed kind).rounds,
    ∃ left : List Axiom, left.Sublist ontology.logicalAxioms ∧ round.GrewWithin seed left := by
  cases kind with
  | bottom | top =>
    exact List.forall_mem_singleton.2 ⟨ontology.logicalAxioms, .refl _, rfl⟩
  | star => exact Alternation.exists_grewWithin seed .bottom false ontology.logicalAxioms

/-- Every module is the outcome of a round. -/
theorem exists_extract_eq_result :
    ∃ round ∈ (ontology.extraction seed kind).rounds, ontology.extract seed kind = round.result := by
  cases kind with
  | bottom | top => exact ⟨_, List.mem_singleton_self _, rfl⟩
  | star => exact ⟨_, Alternation.last_mem_rounds _, rfl⟩

/-- The signature of a module is that of the seed and of the axioms of the module. -/
theorem exists_signature_extract : ∃ flavour, (ontology.extract seed kind).signature =
    .covering seed (ontology.extract seed kind).axioms flavour := by
  obtain ⟨round, mem, same⟩ := ontology.exists_extract_eq_result seed kind
  obtain ⟨left, -, grew⟩ := ontology.exists_grewWithin_extraction seed kind round mem
  rw [same]
  exact ⟨round.flavour, grew.signature⟩

end Ontology

end OntologyModules
