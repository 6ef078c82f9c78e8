import OntologyModules.Proofs.Syntax.WellFormed

/-!
# Histories of ontologies

An ontology is begun empty, with a name or from some axioms, and then changed by calls, checked
and unchecked ones in any order. A call either adds its axiom or, if it checks it and finds a
fault, changes nothing (`Ontology.perform_eq`). So after any history the ontology is the one it
was begun as with the accepted axioms added in the order of the calls
(`Ontology.History.ontology_eq`), and what is kept beside the axioms is determined by them
(`Ontology.History.ontology_invariant`).
-/

namespace OntologyModules.Ontology

/-! ### One call -/

namespace Call

/-- The axiom of the call. -/
def statement : Call → Axiom
  | add ax | tryAdd ax => ax

/-- Whether the call adds its axiom only if it is well formed. -/
def isChecked : Call → Bool
  | add _ => false
  | tryAdd _ => true

/-- The fault for which the call is refused, whatever the ontology. -/
def refusal? : Call → Option Fault
  | add _ => none
  | tryAdd ax => ax.fault?

/-- A call is refused when it checks its axiom and the axiom is not accepted. -/
theorem refusal?_eq_some_iff {call : Call} {fault : Fault} :
    call.refusal? = some fault ↔ ∃ ax, call = .tryAdd ax ∧ ax.validate = .error fault := by
  cases call with
  | add ax => simp [refusal?]
  | tryAdd ax => simp [refusal?, Axiom.validate_eq_error_iff]

end Call

/-- A checked call in place answers and changes what the check decides. -/
theorem perform_tryAdd (ontology : Ontology) (ax : Axiom) :
    ontology.perform (.tryAdd ax) =
      match ontology.tryAdd ax with
      | .ok next => (.ok (), next)
      | .error fault => (.error fault, ontology) := by
  rw [perform, Call.run, Axiom.validate, tryAdd]
  cases ax.fault? <;> rfl

/-- A call adds its axiom, or is refused and changes nothing. -/
theorem perform_eq (ontology : Ontology) (call : Call) :
    ontology.perform call =
      match call.refusal? with
      | none => (.ok (), ontology.add call.statement)
      | some fault => (.error fault, ontology) := by
  cases call with
  | add ax => rfl
  | tryAdd ax =>
    rw [perform_tryAdd, tryAdd, Call.refusal?]
    cases ax.fault? <;> rfl

/-- A call is answered with a fault exactly when it is refused for it. -/
theorem perform_fst_eq_error_iff {ontology : Ontology} {call : Call} {fault : Fault} :
    (ontology.perform call).1 = .error fault ↔ call.refusal? = some fault := by
  rw [perform_eq]
  cases call.refusal? <;> simp

/-! ### Any number of calls -/

/-- How an ontology is begun. -/
inductive Start where
  /-- Without a name and without axioms. -/
  | empty
  /-- With a name and without axioms. -/
  | withIri (iri : Iri)
  /-- Without a name, from some axioms. -/
  | ofList (axioms : List Axiom)
deriving DecidableEq

namespace Start

/-- The ontology as it is begun. -/
def ontology : Start → Ontology
  | empty => .empty
  | withIri iri => .withIri iri
  | ofList axioms => .ofList axioms

/-- The name that it is begun with. -/
def iri? : Start → Option Iri
  | withIri iri => some iri
  | empty | ofList _ => none

/-- The axioms that it is begun with. -/
def axioms : Start → List Axiom
  | ofList axioms => axioms
  | empty | withIri _ => []

/-- An ontology is begun by adding its axioms to an ontology that has none. -/
theorem ontology_eq (start : Start) :
    start.ontology = start.axioms.foldl add ⟨start.iri?, [], .empty⟩ := by
  cases start <;> rfl

end Start

/-- The ontology after calls one after the other. -/
def performAll (ontology : Ontology) (calls : List Call) : Ontology :=
  calls.foldl (fun reached call => (reached.perform call).2) ontology

/-- The axioms of the calls that are answered with success, in the order of the calls. -/
def acceptedBy (ontology : Ontology) : List Call → List Axiom
  | [] => []
  | call :: later =>
    match ontology.perform call with
    | (.ok (), next) => call.statement :: next.acceptedBy later
    | (.error _, next) => next.acceptedBy later

/-- Calls add the axioms that are accepted. -/
theorem performAll_eq (ontology : Ontology) (calls : List Call) :
    ontology.performAll calls = (ontology.acceptedBy calls).foldl add ontology := by
  induction calls generalizing ontology with
  | nil => rfl
  | cons call later ih =>
    have step : ontology.performAll (call :: later) = (ontology.perform call).2.performAll later :=
      rfl
    rw [step, ih, acceptedBy, perform_eq]
    cases call.refusal? <;> rfl

/-- What checked calls add has been found well formed. -/
theorem validate_of_mem_acceptedBy {ontology : Ontology} {calls : List Call}
    (checked : ∀ call ∈ calls, call.isChecked = true) {ax : Axiom}
    (mem : ax ∈ ontology.acceptedBy calls) : ax.validate = .ok () := by
  induction calls generalizing ontology with
  | nil => exact absurd mem List.not_mem_nil
  | cons call later ih =>
    obtain ⟨first, rest⟩ := List.forall_mem_cons.1 checked
    rw [acceptedBy, perform_eq] at mem
    cases refused : call.refusal? with
    | some fault =>
      rw [refused] at mem
      exact ih rest mem
    | none =>
      rw [refused] at mem
      rcases List.mem_cons.1 mem with rfl | mem
      · cases call with
        | add ax => exact absurd first Bool.false_ne_true
        | tryAdd ax => exact Axiom.validate_eq_ok_iff.2 refused
      · exact ih rest mem

/-- Adding axioms keeps the name. -/
theorem iri_foldl_add (ontology : Ontology) (axioms : List Axiom) :
    (axioms.foldl add ontology).iri = ontology.iri := by
  induction axioms generalizing ontology with
  | nil => rfl
  | cons first rest ih => exact ih (ontology.add first)

/-- Adding axioms adds their entities and nothing else. -/
theorem mem_entities_foldl_add {ontology : Ontology} {axioms : List Axiom} {entity : Entity} :
    entity ∈ (axioms.foldl add ontology).entities ↔
      entity ∈ ontology.entities ∨ ∃ ax ∈ axioms, entity ∈ ax.entities := by
  induction axioms generalizing ontology with
  | nil => simp
  | cons first rest ih =>
    rw [List.foldl_cons, ih, mem_entities_add, List.exists_mem_cons_iff, or_assoc]

/-- How an ontology came about. -/
structure History where
  /-- How it was begun. -/
  start : Start
  /-- The calls after that, in order. -/
  calls : List Call

namespace History

variable (history : History)

/-- The ontology after the last call. -/
def ontology : Ontology := history.start.ontology.performAll history.calls

/-- The axioms of the calls that were answered with success, in the order of the calls. -/
def accepted : List Axiom := history.start.ontology.acceptedBy history.calls

/-- After any history the ontology is made of the axioms it was begun with and those accepted. -/
theorem ontology_eq : history.ontology =
    (history.start.axioms ++ history.accepted).foldl add ⟨history.start.iri?, [], .empty⟩ := by
  rw [ontology, performAll_eq, List.foldl_append, ← history.start.ontology_eq]
  rfl

/-- The axioms are those it was begun with and those accepted, in order. -/
theorem axioms_ontology :
    history.ontology.axioms = history.start.axioms ++ history.accepted := by
  rw [ontology_eq, axioms_foldl_add, List.nil_append]

/-- The entities are those of the axioms. -/
theorem mem_entities_ontology {entity : Entity} : entity ∈ history.ontology.entities ↔
    ∃ ax ∈ history.ontology.axioms, entity ∈ ax.entities := by
  rw [axioms_ontology, ontology_eq, mem_entities_foldl_add]
  exact or_iff_right (SortedSet.not_mem_empty entity)

/-- After any history the entities of the ontology are exactly those of its axioms, its axioms are
those it was begun with followed by those accepted, and its name is the one it was begun with. The
next call is refused exactly when it checks its axiom and finds a fault, for that fault, and then
leaves everything as it was. If the ontology was begun without axioms and every call was checked,
all its axioms are well formed, and an extraction that checks them gives the module. -/
theorem ontology_invariant :
    (∀ entity, entity ∈ history.ontology.entities ↔
      ∃ ax ∈ history.ontology.axioms, entity ∈ ax.entities) ∧
    history.ontology.axioms = history.start.axioms ++ history.accepted ∧
    history.ontology.iri = history.start.iri? ∧
    (∀ call fault, (history.ontology.perform call).1 = .error fault ↔
      ∃ ax, call = .tryAdd ax ∧ ax.validate = .error fault) ∧
    (∀ call fault, (history.ontology.perform call).1 = .error fault →
      (history.ontology.perform call).2 = history.ontology) ∧
    ((history.start = .empty ∨ ∃ iri, history.start = .withIri iri) →
      (∀ call ∈ history.calls, call.isChecked = true) →
        (∀ ax ∈ history.ontology.axioms, ax.validate = .ok ()) ∧
        ∀ seed kind, history.ontology.extractChecked seed kind =
          .ok (history.ontology.extract seed kind)) := by
  refine ⟨fun _ => history.mem_entities_ontology, history.axioms_ontology, ?_, ?_, ?_, ?_⟩
  · rw [ontology_eq, iri_foldl_add]
  · intro call fault
    rw [perform_fst_eq_error_iff, Call.refusal?_eq_some_iff]
  · intro call fault refused
    rw [perform_eq, perform_fst_eq_error_iff.1 refused]
  · intro bare checked
    have begun : history.start.axioms = [] := by
      rcases bare with same | ⟨iri, same⟩ <;> rw [same] <;> rfl
    have valid (ax : Axiom) (mem : ax ∈ history.ontology.axioms) : ax.validate = .ok () := by
      rw [axioms_ontology, begun, List.nil_append] at mem
      exact validate_of_mem_acceptedBy checked mem
    refine ⟨valid, fun seed kind => extractChecked_eq_ok_iff.2 ⟨?_, rfl⟩⟩
    exact List.findSome?_eq_none_iff.2 fun ax mem => Axiom.validate_eq_ok_iff.1 (valid ax mem)

/-- A named ontology that refused an equivalence of a single class between two other axioms. -/
def withRefusal : History where
  start := .withIri "o"
  calls := [.tryAdd (.subClassOf (.named "A") (.named "B")),
    .tryAdd (.equivalentClasses [.named "C"]), .tryAdd (.declaration ⟨.namedClass, "D"⟩)]

/-- The call that was refused is refused again and changes nothing, and the ontology has only
well-formed axioms. -/
theorem ontology_invariant_of_refusal :
    (withRefusal.ontology.perform (.tryAdd (.equivalentClasses [.named "C"]))).1 =
      .error (.tooFewOperands .equivalentClasses 1) ∧
    (withRefusal.ontology.perform (.tryAdd (.equivalentClasses [.named "C"]))).2 =
      withRefusal.ontology ∧
    (∀ ax ∈ withRefusal.ontology.axioms, ax.validate = .ok ()) ∧
    withRefusal.ontology.extractChecked [⟨.namedClass, "A"⟩] .bottom =
      .ok (withRefusal.ontology.extract [⟨.namedClass, "A"⟩] .bottom) := by
  obtain ⟨-, -, -, refused, unchanged, valid⟩ := ontology_invariant withRefusal
  have answer := (refused (.tryAdd (.equivalentClasses [.named "C"]))
    (.tooFewOperands .equivalentClasses 1)).2 ⟨_, rfl, rfl⟩
  obtain ⟨stored, extracted⟩ := valid (.inr ⟨"o", rfl⟩) (by decide)
  exact ⟨answer, unchanged _ _ answer, stored, extracted _ _⟩

end History

end OntologyModules.Ontology
