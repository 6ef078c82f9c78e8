import OntologyModules.Proofs.Extraction.Alternation
import OntologyModules.Proofs.Locality.Soundness

/-!
# Ontologies are conservative over their modules

Whatever satisfies a module can be changed outside the module's signature so that it satisfies
the whole ontology. For one growth the change is to read the names outside the signature as the
flavour says: the axioms chosen mention none of them, and the axioms left out are local
(`Growth.satisfies_adjust`). An alternation ends with the smallest of its signatures; going back
through the rounds, each change is made outside a larger signature than the one before, so it
leaves alone what the last signature contains (`Alternation.exists_satisfies`).
-/

namespace OntologyModules

universe u v

variable {Object : Type u} {Value : Type v}

/-- The axioms put properties where their sort is expected and list few members each. -/
structure WellBehaved (axioms : List Axiom) : Prop where
  /-- Properties stand where their sort is expected. -/
  typed : ∀ ax ∈ axioms, ax.isWellTyped = true
  /-- No count of listed members saturates. -/
  small : ∀ ax ∈ axioms, ax.memberCount < Saturating.greatest

/-- Fewer axioms behave as well. -/
theorem WellBehaved.mono {fewer more : List Axiom} (behaved : WellBehaved more)
    (subset : fewer ⊆ more) : WellBehaved fewer where
  typed := fun ax mem => behaved.typed ax (subset mem)
  small := fun ax mem => behaved.small ax (subset mem)

/-- What satisfies the axioms of a growth satisfies all candidates once it is adjusted to the
signature of the growth. -/
theorem Growth.satisfies_adjust (seed : List Entity) (flavour : Flavour) {current : List Axiom}
    (behaved : WellBehaved current) {I : Interpretation Object Value}
    (satisfies : ∀ ax ∈ (ofSeed current seed flavour).axioms, I.Satisfies ax) :
    ∀ ax ∈ current, (I.adjust (ofSeed current seed flavour).signature).Satisfies ax := by
  intro ax mem
  by_cases chosen : ax ∈ (ofSeed current seed flavour).axioms
  · have mentioned : ∀ entity ∈ ax.mentions, entity ∈ (ofSeed current seed flavour).signature := by
      intro entity mention
      rw [signature_ofSeed]
      exact Signature.mem_covering_of_mentions chosen mention
    have agree := I.agreesOn_adjust (ofSeed current seed flavour).signature
    exact (agree.satisfies_iff mentioned).1 (satisfies ax chosen)
  · have follows := I.follows_adjust (ofSeed current seed flavour).signature
    exact follows.satisfies_of_isLocal (behaved.typed ax mem) (behaved.small ax mem)
      (isLocal_of_not_mem seed flavour current mem chosen)

/-- What satisfies the axioms of the last round can be changed outside the signature of that
round so that it satisfies all candidates. -/
theorem Alternation.exists_satisfies (seed : List Entity) (flavour : Flavour) (settled : Bool)
    (current : List Axiom) (behaved : WellBehaved current) {I : Interpretation Object Value}
    (satisfies : ∀ ax ∈ (continueFrom seed flavour settled current).last.growth.axioms,
      I.Satisfies ax) :
    ∃ J : Interpretation Object Value,
      I.AgreesOn J (· ∈ (continueFrom seed flavour settled current).last.growth.signature) ∧
        ∀ ax ∈ current, J.Satisfies ax := by
  fun_induction continueFrom seed flavour settled current with
  | case1 flavour settled current =>
    exact ⟨_, I.agreesOn_adjust _, Growth.satisfies_adjust seed flavour behaved satisfies⟩
  | case2 flavour settled current growth kept goesOn next ih =>
    rw [last_cons] at satisfies ⊢
    have part : growth.axioms ⊆ current := (Growth.sublist_axioms current seed flavour).subset
    obtain ⟨J, agree, later⟩ := ih (behaved.mono part) satisfies
    refine ⟨J.adjust growth.signature, agree.trans ?_,
      Growth.satisfies_adjust seed flavour behaved later⟩
    -- The signature of the last round lies within the one that this change is made outside of.
    obtain ⟨left, fewer, grew⟩ := exists_grewWithin seed flavour.opposite kept growth.axioms
      next.last next.last_mem_rounds
    have within : next.last.growth.axioms ⊆ growth.axioms :=
      (grew.sublist.trans fewer).subset
    refine (J.agreesOn_adjust growth.signature).mono fun entity mem => ?_
    have covered : entity ∈ next.last.growth.signature := mem
    rw [grew.signature] at covered
    rw [Growth.signature_ofSeed seed flavour current]
    exact Signature.mem_covering_of_subset within covered

/-- Any interpretation that satisfies the module of a seed can be changed, only in classes and
properties outside the signature of the module, into one that satisfies every logical axiom of
the ontology. -/
theorem Ontology.extract_conservative (ontology : Ontology) (seed : List Entity)
    (kind : ModuleKind) (typed : ∀ ax ∈ ontology.axioms, ax.isWellTyped = true)
    (small : ∀ ax ∈ ontology.axioms, ax.memberCount < Saturating.greatest)
    (I : Interpretation Object Value)
    (satisfies : ∀ ax ∈ (ontology.extract seed kind).axioms, I.Satisfies ax) :
    ∃ J : Interpretation Object Value,
      I.AgreesOn J (· ∈ (ontology.extract seed kind).signature) ∧
        ∀ ax ∈ ontology.logicalAxioms, J.Satisfies ax := by
  have behaved : WellBehaved ontology.logicalAxioms :=
    WellBehaved.mono ⟨typed, small⟩ List.filter_sublist.subset
  cases kind with
  | bottom =>
    exact ⟨_, I.agreesOn_adjust _, Growth.satisfies_adjust seed .bottom behaved satisfies⟩
  | top => exact ⟨_, I.agreesOn_adjust _, Growth.satisfies_adjust seed .top behaved satisfies⟩
  | star =>
    exact Alternation.exists_satisfies seed .bottom false ontology.logicalAxioms behaved satisfies

/-- A star module may leave out an axiom that does not hold; it does once the class that the
module does not know is read as universal. -/
theorem Ontology.extract_conservative_over_naturals :
    ∃ J : Interpretation Nat Bool,
      ((default : Interpretation Nat Bool).adjust
        (.ofEntities [⟨.namedClass, "E"⟩] (.uniform .top))).AgreesOn J
          (· ∈ ((ofList [.subClassOf (.named "A") (.named "B"),
            .subClassOf (.named "B") (.named "E")]).extract
              [⟨.namedClass, "A"⟩, ⟨.namedClass, "B"⟩] .star).signature) ∧
        ∀ ax ∈ (ofList [.subClassOf (.named "A") (.named "B"),
          .subClassOf (.named "B") (.named "E")]).logicalAxioms, J.Satisfies ax := by
  apply extract_conservative _ _ .star (by decide) (by decide)
  have chosen : ((ofList [.subClassOf (.named "A") (.named "B"),
      .subClassOf (.named "B") (.named "E")]).extract
        [⟨.namedClass, "A"⟩, ⟨.namedClass, "B"⟩] .star).axioms =
      [.subClassOf (.named "A") (.named "B")] := by decide +kernel
  rw [chosen]
  intro ax mem
  obtain rfl := List.mem_singleton.1 mem
  have full : ((default : Interpretation Nat Bool).adjust
      (.ofEntities [⟨.namedClass, "E"⟩] (.uniform .top))).classes "B" = Set.univ :=
    ((default : Interpretation Nat Bool).follows_adjust
      (.ofEntities [⟨.namedClass, "E"⟩] (.uniform .top))).classes "B" (by decide)
  intro x _
  change x ∈ Interpretation.classes _ "B"
  rw [full]
  exact Set.mem_univ x

end OntologyModules
