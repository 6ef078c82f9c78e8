import OntologyModules.Format.Locality
import OntologyModules.Format.Ontology
import OntologyModules.Proofs.Format.Expression

/-!
# The written form loses nothing

What is written for an entity, a literal, an expression, an axiom, an ontology, a convention or a
kind of module is read back as it was (`isFaithful_formats`), so that different values are
written differently. A set of entities may be read from any listing; it is read back because the
listing that is written has exactly its members.
-/

namespace OntologyModules

open Json (PayloadForm ReadsBack map_ok)

/-! ### Words and entities -/

/-- A value that is written as its word is read back, provided that its word stands for it. -/
theorem Json.asName_ok {α : Type} {alternatives : List (String × α)} {name : String} {value : α}
    (known : alternatives.lookup name = some value) :
    Json.asName alternatives (.string name) = .ok value := by
  rw [Json.asName, Json.asName.choose, known]

/-- The word for a kind stands for that kind only. -/
theorem EntityKind.lookup_name (kind : EntityKind) :
    EntityKind.alternatives.lookup kind.name = some kind := by
  cases kind <;> rfl

/-- Flavours are read back. -/
theorem Flavour.readsBack : ReadsBack Flavour.encode Flavour.decode := by
  intro flavour
  apply Json.asName_ok
  cases flavour <;> rfl

/-- Kinds of modules are read back. -/
theorem ModuleKind.readsBack : ReadsBack ModuleKind.encode ModuleKind.decode := by
  intro kind
  apply Json.asName_ok
  cases kind <;> rfl

/-- Conventions are read back. -/
theorem Convention.readsBack : ReadsBack Convention.encode Convention.decode := by
  rintro ⟨classes, properties⟩
  have fields : Json.asRecord₂ "struct LocalityConfig"
      (.withDefault "classes" Flavour.decode default)
      (.withDefault "properties" Flavour.decode default)
      (Convention.encode ⟨classes, properties⟩) = .ok (classes, properties) :=
    Json.asRecord₂_ok (by decide : "properties" ≠ "classes") (Flavour.readsBack classes)
      (Flavour.readsBack properties)
  rw [Convention.decode, fields]
  rfl

/-- Entities are read back. -/
theorem Entity.readsBack : ReadsBack Entity.encode Entity.decode := by
  rintro ⟨kind, iri⟩
  have known : Json.asName.choose EntityKind.alternatives kind.name = .ok kind := by
    rw [Json.asName.choose, kind.lookup_name]
  rw [Entity.encode, Json.tagged, Entity.decode, known]
  rfl

/-- Sets of entities are read back. -/
theorem EntitySet.readsBack : ReadsBack EntitySet.encode EntitySet.decode := by
  intro set
  have read := map_ok SortedSet.ofList (Json.readsBack_list Entity.readsBack set.toList)
  rw [set.ofList_toList] at read
  exact read

/-! ### Axioms -/

namespace Axiom

variable {α β γ : Type} {a b c : Json} {x : α} {y : β} {z : γ} {first : Json → Except Problem α}
  {second : Json → Except Problem β} {third : Json → Except Problem γ}

/-- An axiom of two parts is read back when its parts are. -/
theorem decodePair_ok (make : α → β → Axiom) (readFirst : first a = .ok x)
    (readSecond : second b = .ok y) :
    decodePair make first second (.list [a, b]) = .ok (make x y) := by
  rw [decodePair, Json.asPair_ok readFirst readSecond]
  rfl

/-- An axiom of three parts is read back when its parts are. -/
theorem decodeTriple_ok (make : α → β → γ → Axiom) (readFirst : first a = .ok x)
    (readSecond : second b = .ok y) (readThird : third c = .ok z) :
    decodeTriple make first second third (.list [a, b, c]) = .ok (make x y z) := by
  rw [decodeTriple, Json.asTriple_ok readFirst readSecond readThird]
  rfl

/-- Lists of property expressions are read back. -/
theorem readsBack_properties : ReadsBack encodeProperties decodeProperties :=
  Json.readsBack_list Property.readsBack

/-- Lists of individuals are read back. -/
theorem readsBack_individuals : ReadsBack encodeIndividuals decodeIndividuals :=
  Json.readsBack_list Json.readsBack_text

/-- Lists of class expressions are read back. -/
theorem readsBack_classes (form : PayloadForm) :
    ReadsBack encodeClasses (ClassExpression.decodeList form) := by
  intro classes
  have read := ClassExpression.decodeList_encodeAll form
    fun expression (_ : expression ∈ classes) => ClassExpression.readsBack form expression
  rw [ClassExpression.encodeAll_eq_map] at read
  exact read

/-- An axiom is read back when its parts are, by the reader for its sort. -/
theorem decode_tagged {form : PayloadForm} {sort : String} {parts : Json} {ax : Axiom}
    (read : decodeParts form sort parts = .ok ax) : decode form (.tagged sort parts) = .ok ax := by
  rw [Json.tagged, decode, read]
  rfl

/-- Axioms are read back. -/
theorem readsBack (form : PayloadForm) : ReadsBack encode (decode form) := by
  have readClass := ClassExpression.readsBack form
  have readClasses := readsBack_classes form
  have readRange := DataRange.readsBack form
  have readProperty := Property.readsBack
  have readProperties := readsBack_properties
  have readIndividuals := readsBack_individuals
  have readText := Json.readsBack_text
  have readLiteral := Literal.readsBack
  intro ax
  cases ax with
  | declaration entity => exact decode_tagged (map_ok declaration (Entity.readsBack entity))
  | subClassOf sub super =>
    exact decode_tagged (decodePair_ok subClassOf (readClass sub) (readClass super))
  | equivalentClasses operands =>
    exact decode_tagged (map_ok equivalentClasses (readClasses operands))
  | disjointClasses operands =>
    exact decode_tagged (map_ok disjointClasses (readClasses operands))
  | disjointUnion iri operands =>
    exact decode_tagged (decodePair_ok disjointUnion (readText iri) (readClasses operands))
  | subObjectPropertyOf sub super =>
    exact decode_tagged (decodePair_ok subObjectPropertyOf (readProperty sub) (readProperty super))
  | subPropertyChainOf chain super =>
    exact decode_tagged
      (decodePair_ok subPropertyChainOf (readProperties chain) (readProperty super))
  | equivalentObjectProperties operands =>
    exact decode_tagged (map_ok equivalentObjectProperties (readProperties operands))
  | disjointObjectProperties operands =>
    exact decode_tagged (map_ok disjointObjectProperties (readProperties operands))
  | inverseObjectProperties first second =>
    exact decode_tagged
      (decodePair_ok inverseObjectProperties (readProperty first) (readProperty second))
  | objectPropertyDomain property domain =>
    exact decode_tagged
      (decodePair_ok objectPropertyDomain (readProperty property) (readClass domain))
  | objectPropertyRange property range =>
    exact decode_tagged
      (decodePair_ok objectPropertyRange (readProperty property) (readClass range))
  | objectProperty characteristic property =>
    have reads : decodeParts form characteristic.sort property.encode =
        objectProperty characteristic <$> Property.decode property.encode := by
      cases characteristic <;> rfl
    exact decode_tagged
      (reads.trans (map_ok (objectProperty characteristic) (readProperty property)))
  | subDataPropertyOf sub super =>
    exact decode_tagged (decodePair_ok subDataPropertyOf (readProperty sub) (readProperty super))
  | equivalentDataProperties operands =>
    exact decode_tagged (map_ok equivalentDataProperties (readProperties operands))
  | disjointDataProperties operands =>
    exact decode_tagged (map_ok disjointDataProperties (readProperties operands))
  | dataPropertyDomain property domain =>
    exact decode_tagged
      (decodePair_ok dataPropertyDomain (readProperty property) (readClass domain))
  | dataPropertyRange property range =>
    exact decode_tagged
      (decodePair_ok dataPropertyRange (readProperty property) (readRange range))
  | functionalDataProperty property =>
    exact decode_tagged (map_ok functionalDataProperty (readProperty property))
  | datatypeDefinition iri range =>
    exact decode_tagged (decodePair_ok datatypeDefinition (readText iri) (readRange range))
  | hasKey subject properties =>
    exact decode_tagged (decodePair_ok hasKey (readClass subject) (readProperties properties))
  | sameIndividual individuals =>
    exact decode_tagged (map_ok sameIndividual (readIndividuals individuals))
  | differentIndividuals individuals =>
    exact decode_tagged (map_ok differentIndividuals (readIndividuals individuals))
  | classAssertion expression individual =>
    exact decode_tagged
      (decodePair_ok classAssertion (readClass expression) (readText individual))
  | objectPropertyAssertion property source target =>
    exact decode_tagged (decodeTriple_ok objectPropertyAssertion (readProperty property)
      (readText source) (readText target))
  | negativeObjectPropertyAssertion property source target =>
    exact decode_tagged (decodeTriple_ok negativeObjectPropertyAssertion (readProperty property)
      (readText source) (readText target))
  | dataPropertyAssertion property source value =>
    exact decode_tagged (decodeTriple_ok dataPropertyAssertion (readProperty property)
      (readText source) (readLiteral value))
  | negativeDataPropertyAssertion property source value =>
    exact decode_tagged (decodeTriple_ok negativeDataPropertyAssertion (readProperty property)
      (readText source) (readLiteral value))

end Axiom

/-! ### Ontologies -/

/-- Ontologies are read back, those without a name too. -/
theorem Ontology.readsBack (form : PayloadForm) :
    ReadsBack Ontology.encode (Ontology.decode form) := by
  rintro ⟨iri, axioms, entities⟩
  have readIri : Json.asOption Json.asText (.ofOption Json.string iri) = .ok iri :=
    Json.readsBack_option (fun _ => rfl) Json.readsBack_text iri
  have fields : Json.asRecord₃ "an ontology" (.optional "iri" Json.asText)
      (.required "axioms" (Json.asList (Axiom.decode form)))
      (.required "entities" EntitySet.decode) (Ontology.encode ⟨iri, axioms, entities⟩) =
        .ok (iri, axioms, entities) :=
    Json.asRecord₃_ok (by decide : "axioms" ≠ "iri") (by decide : "entities" ≠ "iri")
      (by decide : "entities" ≠ "axioms") readIri
      (Json.readsBack_list (Axiom.readsBack form) axioms) (EntitySet.readsBack entities)
  rw [Ontology.decode, fields]
  rfl

/-! ### All written forms -/

/-- A written form is faithful when every value is read back from it and different values are
written differently. -/
structure Json.IsFaithful {α : Type} (encode : α → Json) (decode : Json → Except Problem α) :
    Prop where
  /-- Every value is read back. -/
  readsBack : ReadsBack encode decode
  /-- Different values are written differently. -/
  injective : Function.Injective encode

/-- A written form from which every value is read back is faithful. -/
theorem Json.ReadsBack.isFaithful {α : Type} {encode : α → Json}
    {decode : Json → Except Problem α} (reads : ReadsBack encode decode) :
    Json.IsFaithful encode decode :=
  ⟨reads, reads.injective⟩

/-- All written forms are faithful, whether or not the reader takes arrays for records. -/
theorem isFaithful_formats (form : PayloadForm) :
    Json.IsFaithful Entity.encode Entity.decode ∧
      Json.IsFaithful Literal.encode Literal.decode ∧
      Json.IsFaithful Property.encode Property.decode ∧
      Json.IsFaithful Facet.encode Facet.decode ∧
      Json.IsFaithful DataRange.encode (DataRange.decode form) ∧
      Json.IsFaithful ClassExpression.encode (ClassExpression.decode form) ∧
      Json.IsFaithful Axiom.encode (Axiom.decode form) ∧
      Json.IsFaithful Ontology.encode (Ontology.decode form) ∧
      Json.IsFaithful Flavour.encode Flavour.decode ∧
      Json.IsFaithful Convention.encode Convention.decode ∧
      Json.IsFaithful ModuleKind.encode ModuleKind.decode :=
  ⟨Entity.readsBack.isFaithful, Literal.readsBack.isFaithful, Property.readsBack.isFaithful,
    Facet.readsBack.isFaithful, (DataRange.readsBack form).isFaithful,
    (ClassExpression.readsBack form).isFaithful, (Axiom.readsBack form).isFaithful,
    (Ontology.readsBack form).isFaithful, Flavour.readsBack.isFaithful,
    Convention.readsBack.isFaithful, ModuleKind.readsBack.isFaithful⟩

/-- Counting without a filler is written differently from counting in the universal class. -/
example (count : Count) (property : Property) :
    (ClassExpression.objectCount count property).encode ≠
      (ClassExpression.object (.count count) property .thing).encode :=
  (ClassExpression.readsBack .named).injective.ne ClassExpression.noConfusion

/-- A literal without a language is written differently from one whose language is empty. -/
example (value : String) (datatype : Iri) :
    Literal.encode ⟨value, datatype, none⟩ ≠ Literal.encode ⟨value, datatype, some ""⟩ := by
  apply Literal.readsBack.injective.ne
  simp

end OntologyModules
