import OntologyModules.Extraction.Growth

/-!
# What a growth reaches

The signature of a growth is the seed with the entities of the axioms chosen, before and after
every pass, so the axioms chosen determine it (`Growth.signature_ofSeed`). When the growth ends,
every candidate that was not chosen is local for that signature (`Growth.isLocal_of_not_mem`).
-/

namespace OntologyModules

namespace Signature

/-- The seed with the entities of some axioms, in one flavour. -/
def covering (seed : List Entity) (axioms : List Axiom) (flavour : Flavour) : Signature :=
  ofEntities (seed ++ axioms.flatMap (·.mentions)) (.uniform flavour)

/-- The entities covered are those of the seed and those of the axioms. -/
theorem mem_covering {seed : List Entity} {axioms : List Axiom} {flavour : Flavour}
    {entity : Entity} : entity ∈ covering seed axioms flavour ↔
      entity ∈ seed ∨ ∃ ax ∈ axioms, entity ∈ ax.mentions := by
  rw [covering, mem_iff, ofEntities, EntityPartition.mem_ofList, List.mem_append, List.mem_flatMap]

/-- The seed is covered. -/
theorem mem_covering_of_mem_seed {seed : List Entity} {axioms : List Axiom} {flavour : Flavour}
    {entity : Entity} (mem : entity ∈ seed) : entity ∈ covering seed axioms flavour :=
  mem_covering.2 (.inl mem)

/-- All that an axiom mentions is covered with it. -/
theorem mem_covering_of_mentions {seed : List Entity} {axioms : List Axiom} {flavour : Flavour}
    {ax : Axiom} (mem : ax ∈ axioms) {entity : Entity} (mention : entity ∈ ax.mentions) :
    entity ∈ covering seed axioms flavour := mem_covering.2 (.inr ⟨ax, mem, mention⟩)

/-- More axioms cover more entities. -/
theorem mem_covering_of_subset {seed : List Entity} {fewer more : List Axiom}
    {flavour flavour' : Flavour} (subset : fewer ⊆ more) {entity : Entity}
    (mem : entity ∈ covering seed fewer flavour) : entity ∈ covering seed more flavour' := by
  rw [mem_covering] at mem ⊢
  exact mem.imp_right fun ⟨ax, within, mention⟩ => ⟨ax, subset within, mention⟩

end Signature

namespace Candidate

/-- The chosen axioms are the statements of the chosen candidates. -/
theorem mem_chosenAxioms {candidates : List Candidate} {ax : Axiom} :
    ax ∈ chosenAxioms candidates ↔
      ∃ candidate ∈ candidates, candidate.chosen = true ∧ candidate.statement = ax := by
  simp only [chosenAxioms, List.mem_map, List.mem_filter, and_assoc]

/-- Nothing is chosen at first. -/
theorem chosenAxioms_map_ofAxiom (axioms : List Axiom) :
    chosenAxioms (axioms.map ofAxiom) = [] := by
  simp [chosenAxioms, ofAxiom, List.filter_eq_nil_iff]

/-- A pass chooses what was chosen before and what is fresh. -/
theorem mem_chosenAxioms_chooseAll {signature : Signature} {candidates : List Candidate}
    {ax : Axiom} : ax ∈ chosenAxioms (chooseAll signature candidates) ↔
      ax ∈ chosenAxioms candidates ∨
        ∃ candidate ∈ freshOnes signature candidates, candidate.statement = ax := by
  rw [mem_chosenAxioms, mem_chosenAxioms]
  constructor
  · rintro ⟨after, mem, chosen, rfl⟩
    obtain ⟨candidate, within, rfl⟩ := List.mem_map.1 mem
    rcases Bool.or_eq_true_iff.1 chosen with before | fresh
    · exact .inl ⟨candidate, within, before, rfl⟩
    · exact .inr ⟨candidate, List.mem_filter.2 ⟨within, fresh⟩, rfl⟩
  · rintro (⟨candidate, within, before, rfl⟩ | ⟨candidate, mem, rfl⟩)
    · exact ⟨candidate.choose signature, List.mem_map_of_mem within,
        Bool.or_eq_true_iff.2 (.inl before), rfl⟩
    · obtain ⟨within, fresh⟩ := List.mem_filter.1 mem
      exact ⟨candidate.choose signature, List.mem_map_of_mem within,
        Bool.or_eq_true_iff.2 (.inr fresh), rfl⟩

end Candidate

namespace Growth

/-- The signature reached covers the seed and the axioms chosen so far. -/
def Gathered (seed : List Entity) (flavour : Flavour) (signature : Signature)
    (candidates : List Candidate) : Prop :=
  signature = .covering seed (Candidate.chosenAxioms candidates) flavour

variable {seed : List Entity} {flavour : Flavour} {signature : Signature}
  {candidates : List Candidate}

/-- Choosing more candidates adds the entities of their axioms. -/
theorem Gathered.extend (gathered : Gathered seed flavour signature candidates)
    {fresh after : List Candidate}
    (chosen : ∀ {ax : Axiom}, ax ∈ Candidate.chosenAxioms after ↔
      ax ∈ Candidate.chosenAxioms candidates ∨ ∃ candidate ∈ fresh, candidate.statement = ax) :
    Gathered seed flavour (signature.extend (fresh.flatMap (·.statement.mentions))) after := by
  apply Signature.ext_mem
  · rw [Signature.convention_extend, gathered]
    rfl
  · intro entity
    have before : entity ∈ signature ↔
        entity ∈ seed ∨ ∃ ax ∈ Candidate.chosenAxioms candidates, entity ∈ ax.mentions := by
      rw [← Signature.mem_covering, ← gathered]
    rw [Signature.mem_extend, Signature.mem_covering, List.mem_flatMap, before]
    constructor
    · rintro (⟨candidate, mem, mention⟩ | inSeed | ⟨ax, mem, mention⟩)
      · exact .inr ⟨candidate.statement, chosen.2 (.inr ⟨candidate, mem, rfl⟩), mention⟩
      · exact .inl inSeed
      · exact .inr ⟨ax, chosen.2 (.inl mem), mention⟩
    · rintro (inSeed | ⟨ax, mem, mention⟩)
      · exact .inr (.inl inSeed)
      · rcases chosen.1 mem with earlier | ⟨candidate, within, rfl⟩
        · exact .inr (.inr ⟨ax, earlier, mention⟩)
        · exact .inl ⟨candidate, within, mention⟩

/-- A pass adds the entities of the axioms that it chooses. -/
theorem Gathered.step (gathered : Gathered seed flavour signature candidates) :
    Gathered seed flavour
      (signature.extend
        ((Candidate.freshOnes signature candidates).flatMap (·.statement.mentions)))
      (Candidate.chooseAll signature candidates) :=
  gathered.extend Candidate.mem_chosenAxioms_chooseAll

/-- The growth ends with the signature of the seed and the axioms chosen. -/
theorem signature_continueFrom (gathered : Gathered seed flavour signature candidates) :
    (continueFrom signature candidates).signature =
      .covering seed (continueFrom signature candidates).axioms flavour := by
  fun_induction continueFrom signature candidates with
  | case1 => exact gathered
  | case2 signature candidates _ _ _ _ ih => exact ih gathered.step

/-- The growth ends when every candidate is chosen or local. -/
theorem mem_axioms_or_isLocal (signature : Signature) (candidates : List Candidate) :
    ∀ candidate ∈ candidates,
      candidate.statement ∈ (continueFrom signature candidates).axioms ∨
        candidate.statement.isLocal (continueFrom signature candidates).signature = true := by
  fun_induction continueFrom signature candidates with
  | case1 signature candidates _ none =>
    intro candidate mem
    have stale : ¬candidate.isFresh signature = true := by
      intro fresh
      have found : candidate ∈ Candidate.freshOnes signature candidates :=
        List.mem_filter.2 ⟨mem, fresh⟩
      exact List.ne_nil_of_mem found none
    cases chosen : candidate.chosen with
    | true => exact .inl (Candidate.mem_chosenAxioms.2 ⟨candidate, mem, chosen, rfl⟩)
    | false =>
      right
      simpa [Candidate.isFresh, chosen] using stale
  | case2 signature candidates _ _ _ _ ih =>
    intro candidate mem
    exact ih (candidate.choose signature) (List.mem_map_of_mem mem)

variable (seed) (flavour) (current : List Axiom)

/-- Before the first pass the signature covers the seed. -/
theorem gathered_start : Gathered seed flavour (.ofEntities seed (.uniform flavour))
    (current.map Candidate.ofAxiom) := by
  rw [Gathered, Candidate.chosenAxioms_map_ofAxiom, Signature.covering, List.flatMap_nil,
    List.append_nil]

/-- The signature of a growth is that of the seed and of the axioms chosen. -/
theorem signature_ofSeed : (ofSeed current seed flavour).signature =
    .covering seed (ofSeed current seed flavour).axioms flavour :=
  signature_continueFrom (gathered_start seed flavour current)

/-- A growth that leaves as many axioms as it was given leaves the same ones. -/
theorem axioms_eq_of_length
    (kept : ((ofSeed current seed flavour).axioms.length == current.length) = true) :
    (ofSeed current seed flavour).axioms = current :=
  (sublist_axioms current seed flavour).eq_of_length (beq_iff_eq.1 kept)

/-- What a growth leaves out is local for the signature that it reaches. -/
theorem isLocal_of_not_mem {ax : Axiom} (mem : ax ∈ current)
    (left : ax ∉ (ofSeed current seed flavour).axioms) :
    ax.isLocal (ofSeed current seed flavour).signature = true := by
  have listed : Candidate.ofAxiom ax ∈ current.map Candidate.ofAxiom := List.mem_map_of_mem mem
  exact (mem_axioms_or_isLocal _ _ _ listed).resolve_left left

end Growth

end OntologyModules
