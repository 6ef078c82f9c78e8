import Mathlib
import OntologyModules.Proofs.Extraction.Alternation

/-!
# Modules are selections

A module keeps the order of the candidates, and equal candidates share their fate: it is what
remains of the candidates when all axioms outside some set are dropped. Which axioms a selection
has therefore says everything about it (`IsSelection.eq_of_subset`), so statements about the sets
of axioms of two modules are statements about the modules. This holds of every ontology, of whatever
size its axioms are, and the axioms in turn determine the entities of the signature
(`Ontology.extract_shape`).
-/

namespace OntologyModules

/-- The part is what remains of the whole when every axiom that is not in the part is dropped. -/
def IsSelection (part whole : List Axiom) : Prop := part = whole.filter (· ∈ part)

/-- What passes a test is a selection. -/
theorem isSelection_filter (test : Axiom → Bool) (whole : List Axiom) :
    IsSelection (whole.filter test) whole := by
  apply List.filter_congr
  intro ax mem
  rw [Bool.eq_iff_iff, decide_eq_true_eq, List.mem_filter]
  exact (and_iff_right mem).symm

namespace IsSelection

variable {part other middle whole : List Axiom}

/-- Everything is a selection of itself. -/
theorem refl (whole : List Axiom) : IsSelection whole whole :=
  (List.filter_eq_self.2 fun _ mem => decide_eq_true mem).symm

/-- A selection is a part, in the same order. -/
theorem sublist (selection : IsSelection part whole) : part.Sublist whole := by
  rw [selection]
  exact List.filter_sublist

/-- A selection has no other axioms. -/
theorem subset (selection : IsSelection part whole) : part ⊆ whole := selection.sublist.subset

/-- A selection of a selection is a selection. -/
theorem trans (inner : IsSelection part middle) (outer : IsSelection middle whole) :
    IsSelection part whole := by
  have twice : part = whole.filter fun ax => decide (ax ∈ part) && decide (ax ∈ middle) := by
    rw [← List.filter_filter, ← outer]
    exact inner
  rw [twice]
  exact isSelection_filter _ whole

/-- A selection that has no other axioms is a part of the larger one. -/
theorem sublist_of_subset (selection : IsSelection part whole) (larger : IsSelection other whole)
    (subset : part ⊆ other) : part.Sublist other := by
  rw [selection, larger]
  apply List.monotone_filter_right
  intro ax chosen
  exact decide_eq_true (subset (of_decide_eq_true chosen))

/-- Selections with the same axioms are equal. -/
theorem eq_of_subset (selection : IsSelection part whole) (same : IsSelection other whole)
    (subset : part ⊆ other) (superset : other ⊆ part) : part = other :=
  (selection.sublist_of_subset same subset).antisymm (same.sublist_of_subset selection superset)

/-- A selection that drops no axiom is the whole. -/
theorem eq_whole (selection : IsSelection part whole) (all : whole ⊆ part) : part = whole :=
  selection.eq_of_subset (refl whole) selection.subset all

/-- Selections of the same axioms from a reordered whole differ in the order only. -/
theorem perm {whole' : List Axiom} (selection : IsSelection part whole)
    (reordered : IsSelection other whole') (order : whole.Perm whole') (subset : part ⊆ other)
    (superset : other ⊆ part) : part.Perm other := by
  have same : whole'.filter (· ∈ other) = whole'.filter (· ∈ part) := by
    apply List.filter_congr
    intro ax _
    rw [decide_eq_decide]
    exact ⟨fun mem => superset mem, fun mem => subset mem⟩
  have reorder := order.filter (· ∈ part)
  rwa [← selection, ← same, ← reordered] at reorder

end IsSelection

namespace Candidate

/-- Which candidates have been chosen depends on their axioms only. -/
def Marked (test : Axiom → Bool) (candidates : List Candidate) : Prop :=
  ∀ candidate ∈ candidates, candidate.chosen = test candidate.statement

variable {test : Axiom → Bool} {candidates : List Candidate}

/-- The chosen axioms are those that pass the test. -/
theorem Marked.chosenAxioms (marked : Marked test candidates) :
    Candidate.chosenAxioms candidates = (candidates.map (·.statement)).filter test := by
  rw [List.filter_map, Candidate.chosenAxioms]
  exact congrArg _ (List.filter_congr marked)

/-- A pass chooses by the axiom only. -/
theorem Marked.chooseAll (marked : Marked test candidates) (signature : Signature) :
    Marked (fun ax => test ax || !test ax && !ax.isLocal signature)
      (Candidate.chooseAll signature candidates) := by
  intro after mem
  obtain ⟨candidate, within, rfl⟩ := List.mem_map.1 mem
  show (candidate.chosen || candidate.isFresh signature) = _
  rw [isFresh, marked candidate within]
  rfl

end Candidate

/-- The axioms chosen by passes over marked candidates are a selection. -/
theorem Growth.isSelection_continueFrom (signature : Signature) (candidates : List Candidate)
    (marked : ∃ test, Candidate.Marked test candidates) :
    IsSelection (continueFrom signature candidates).axioms (candidates.map (·.statement)) := by
  fun_induction continueFrom signature candidates with
  | case1 signature candidates =>
    obtain ⟨test, marked⟩ := marked
    show IsSelection (Candidate.chosenAxioms candidates) _
    rw [marked.chosenAxioms]
    exact isSelection_filter test _
  | case2 signature candidates _ _ _ _ ih =>
    obtain ⟨test, marked⟩ := marked
    rw [← Candidate.map_statement_chooseAll signature]
    exact ih ⟨_, marked.chooseAll signature⟩

/-- The module of a seed in one flavour is a selection of the candidates. -/
theorem Growth.isSelection_ofSeed (candidates : List Axiom) (seed : List Entity)
    (flavour : Flavour) : IsSelection (ofSeed candidates seed flavour).axioms candidates := by
  have start : Candidate.Marked (fun _ => false) (candidates.map Candidate.ofAxiom) := by
    intro candidate mem
    obtain ⟨ax, -, rfl⟩ := List.mem_map.1 mem
    rfl
  have selection := isSelection_continueFrom (.ofEntities seed (.uniform flavour)) _ ⟨_, start⟩
  rw [Candidate.map_statement_ofAxiom] at selection
  exact selection

/-- The last round of an alternation ends with a selection of what the first one was given. -/
theorem Alternation.isSelection_last (seed : List Entity) (flavour : Flavour) (settled : Bool)
    (current : List Axiom) :
    IsSelection (continueFrom seed flavour settled current).last.growth.axioms current := by
  fun_induction continueFrom seed flavour settled current with
  | case1 flavour settled current => exact Growth.isSelection_ofSeed current seed flavour
  | case2 flavour settled current _ _ _ _ ih =>
    rw [last_cons]
    exact ih.trans (Growth.isSelection_ofSeed current seed flavour)

namespace Ontology

variable (ontology : Ontology) (seed : List Entity) (kind : ModuleKind)

/-- A module of any kind is a selection of the logical axioms. -/
theorem isSelection_extract :
    IsSelection (ontology.extract seed kind).axioms ontology.logicalAxioms := by
  cases kind with
  | bottom => exact Growth.isSelection_ofSeed ontology.logicalAxioms seed .bottom
  | top => exact Growth.isSelection_ofSeed ontology.logicalAxioms seed .top
  | star => exact Alternation.isSelection_last seed .bottom false ontology.logicalAxioms

/-- Declarations are not among the logical axioms. -/
theorem declaration_not_mem_logicalAxioms (entity : Entity) :
    .declaration entity ∉ ontology.logicalAxioms := by
  intro mem
  exact Bool.false_ne_true (List.mem_filter.1 mem).2

/-- A module is what remains of the logical axioms when those outside some set are dropped: it has
the order of the ontology, each axiom as often as the ontology or not at all, and no declaration.
Its signature has the entities of the seed and of the axioms, and no others. -/
theorem extract_shape :
    (∃ chosen : Axiom → Bool,
      (ontology.extract seed kind).axioms = ontology.logicalAxioms.filter chosen) ∧
    (ontology.extract seed kind).axioms.Sublist ontology.axioms ∧
    (∀ ax, (ontology.extract seed kind).axioms.count ax = ontology.axioms.count ax ∨
      (ontology.extract seed kind).axioms.count ax = 0) ∧
    (∀ entity, .declaration entity ∉ (ontology.extract seed kind).axioms) ∧
    ∀ entity, entity ∈ (ontology.extract seed kind).signature ↔
      entity ∈ seed ∨ ∃ ax ∈ (ontology.extract seed kind).axioms, entity ∈ ax.entities := by
  have selection := ontology.isSelection_extract seed kind
  refine ⟨⟨_, selection⟩, selection.sublist.trans List.filter_sublist, fun ax => ?_,
    fun entity mem => ?_, fun entity => ?_⟩
  · by_cases chosen : ax ∈ (ontology.extract seed kind).axioms
    · left
      have logical : ax.isLogical = true := (List.mem_filter.1 (selection.subset chosen)).2
      calc
        (ontology.extract seed kind).axioms.count ax
          = (ontology.logicalAxioms.filter (· ∈ (ontology.extract seed kind).axioms)).count ax :=
            congrArg (List.count ax) selection
        _ = ontology.logicalAxioms.count ax := List.count_filter (decide_eq_true chosen)
        _ = ontology.axioms.count ax := List.count_filter logical
    · exact .inr (List.count_eq_zero.2 chosen)
  · exact ontology.declaration_not_mem_logicalAxioms entity (selection.subset mem)
  · obtain ⟨flavour, signature⟩ := ontology.exists_signature_extract seed kind
    rw [signature, Signature.mem_covering]
    simp only [Axiom.mem_entities]

end Ontology

end OntologyModules
