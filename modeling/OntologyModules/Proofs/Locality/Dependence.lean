import OntologyModules.Axiom.Entities
import OntologyModules.Proofs.Locality.Consistency
import OntologyModules.Proofs.Locality.Rules

/-!
# What locality depends on

The rules ask a signature only how classes and properties are read that the axiom mentions, and
of those it decides the reading only where they are not built in. Two signatures that read the
names of an expression alike give it the same bounds and the same extent
(`Signature.ReadAlike.class_bounds`), and an axiom is local for both or for neither
(`Signature.ReadAlike.isLocal`), whatever else they contain. The names that the rules look up
are thus among the names that the axiom is said to mention.
-/

namespace OntologyModules

/-- Whether names of the kind are classes or properties. -/
def EntityKind.isPredicate : EntityKind → Bool
  | namedClass | objectProperty | dataProperty => true
  | individual | datatype => false

namespace Entity

/-- Whether a signature decides how the entity is read: it is a class or a property, and it is
not built in. -/
def hasReading (entity : Entity) : Bool :=
  entity.kind.isPredicate && !entity.isTop && !entity.isBottom

/-- An entity has no reading when it is neither a class nor a property, or built in. -/
theorem hasReading_eq_false_iff {entity : Entity} : entity.hasReading = false ↔
    entity.kind.isPredicate = false ∨ entity.isTop = true ∨ entity.isBottom = true := by
  simp only [hasReading, Bool.and_eq_false_iff, Bool.not_eq_false', or_assoc]

variable {first second : Signature} {entity : Entity}

/-- Every signature says the same of a built-in entity. -/
theorem extent_eq_of_builtIn (builtIn : entity.isTop = true ∨ entity.isBottom = true) :
    entity.extent first = entity.extent second := by
  rcases builtIn with top | bottom
  · simp [extent, top]
  · simp [extent, bottom]

/-- Signatures of one convention say the same of an entity that is in both or in neither. -/
theorem extent_eq_of_mem_iff (convention : first.convention = second.convention)
    (members : entity ∈ first ↔ entity ∈ second) :
    entity.extent first = entity.extent second := by
  have inside : decide (entity ∈ first) = decide (entity ∈ second) := decide_eq_decide.2 members
  rw [extent, extent, Signature.readsTop, Signature.readsTop, Signature.readsBottom,
    Signature.readsBottom, Signature.flavour_congr convention, inside]

end Entity

namespace Signature

/-- The signatures say the same of each class and each property among the names. -/
def ReadAlike (first second : Signature) (names : List Entity) : Prop :=
  ∀ entity ∈ names, entity.kind.isPredicate = true →
    entity.extent first = entity.extent second

variable {first second : Signature}

/-- Signatures of one convention read names alike when they have the same ones of those that have
a reading. -/
theorem readAlike_of_mem_iff {names : List Entity}
    (convention : first.convention = second.convention)
    (members : ∀ entity ∈ names, entity.hasReading = true → (entity ∈ first ↔ entity ∈ second)) :
    ReadAlike first second names := by
  intro entity mention predicate
  by_cases reading : entity.hasReading = true
  · exact Entity.extent_eq_of_mem_iff convention (members entity mention reading)
  · rw [Bool.not_eq_true, Entity.hasReading_eq_false_iff, predicate] at reading
    have builtIn : entity.isTop = true ∨ entity.isBottom = true := reading.resolve_left (by decide)
    exact Entity.extent_eq_of_builtIn builtIn

namespace ReadAlike

/-- A property expression is read by its name. -/
theorem property_extent {names : List Entity} (alike : ReadAlike first second names)
    {property : Property} (mention : property.named ∈ names) :
    property.extent first = property.extent second := by
  have predicate : property.named.kind.isPredicate = true := by
    rcases property.named_kind with object | data
    · rw [object]
      rfl
    · rw [data]
      rfl
  rw [Property.extent_eq_named, Property.extent_eq_named]
  exact alike property.named mention predicate

/-- Listed property expressions are read by their names. -/
theorem property_extents {operands : List Property}
    (alike : ReadAlike first second (operands.map (·.named))) :
    operands.map (·.extent first) = operands.map (·.extent second) :=
  List.map_congr_left fun _ mem => alike.property_extent (List.mem_map_of_mem mem)

/-- A class name is read as the signatures read it. -/
theorem class_name {names : List Entity} (alike : ReadAlike first second names) {iri : Iri}
    (mention : ⟨.namedClass, iri⟩ ∈ names) :
    Entity.extent first ⟨.namedClass, iri⟩ = Entity.extent second ⟨.namedClass, iri⟩ :=
  alike _ mention rfl

/-- The bounds of a class expression depend on the names in it only. -/
theorem class_bounds {expression : ClassExpression}
    (alike : ReadAlike first second expression.mentions) :
    expression.bounds first = expression.bounds second := by
  have listed {operands : List ClassExpression}
      (ih : ∀ operand ∈ operands, ReadAlike first second operand.mentions →
        operand.bounds first = operand.bounds second)
      (alike : ReadAlike first second (ClassExpression.mentionsAll operands)) :
      ClassExpression.boundsAll first operands = ClassExpression.boundsAll second operands := by
    rw [ClassExpression.boundsAll_eq_map, ClassExpression.boundsAll_eq_map]
    refine List.map_congr_left fun operand mem => ih operand mem fun entity within => ?_
    exact alike entity (ClassExpression.mem_mentionsAll mem within)
  induction expression with
  | named iri =>
    rw [ClassExpression.bounds, ClassExpression.bounds, Entity.bounds_eq_ofExtent,
      Entity.bounds_eq_ofExtent, alike.class_name List.mem_cons_self]
  | thing => rfl
  | nothing => rfl
  | complement operand ih => rw [ClassExpression.bounds, ClassExpression.bounds, ih alike]
  | intersection operands ih =>
    rw [ClassExpression.bounds, ClassExpression.bounds, listed ih alike]
  | union operands ih => rw [ClassExpression.bounds, ClassExpression.bounds, listed ih alike]
  | oneOf members => rfl
  | object quantifier property filler ih =>
    obtain ⟨-, inside⟩ := List.forall_mem_cons.1 alike
    rw [ClassExpression.bounds, ClassExpression.bounds,
      alike.property_extent List.mem_cons_self, ih inside]
  | objectCount count property =>
    rw [ClassExpression.bounds, ClassExpression.bounds, alike.property_extent List.mem_cons_self]
  | hasValue property value =>
    rw [ClassExpression.bounds, ClassExpression.bounds, alike.property_extent List.mem_cons_self]
  | hasSelf property =>
    rw [ClassExpression.bounds, ClassExpression.bounds, alike.property_extent List.mem_cons_self]
  | data quantifier property filler =>
    rw [ClassExpression.bounds, ClassExpression.bounds, alike.property_extent List.mem_cons_self]
  | dataCount count property =>
    rw [ClassExpression.bounds, ClassExpression.bounds, alike.property_extent List.mem_cons_self]
  | dataHasValue property value =>
    rw [ClassExpression.bounds, ClassExpression.bounds, alike.property_extent List.mem_cons_self]

/-- What is said of a class expression depends on the names in it only. -/
theorem class_extent {expression : ClassExpression}
    (alike : ReadAlike first second expression.mentions) :
    expression.extent first = expression.extent second := by
  rw [← ClassExpression.extent_bounds, ← ClassExpression.extent_bounds, alike.class_bounds]

/-- What is said of listed class expressions depends on the names in them only. -/
theorem class_extents {operands : List ClassExpression}
    (alike : ReadAlike first second (operands.flatMap (·.mentions))) :
    operands.map (·.extent first) = operands.map (·.extent second) := by
  refine List.map_congr_left fun operand mem => class_extent fun entity within => ?_
  exact alike entity (List.mem_flatMap.2 ⟨operand, mem, within⟩)

/-- An axiom is local for both signatures or for neither, by the names in it only. -/
theorem isLocal {ax : Axiom} (alike : ReadAlike first second ax.mentions) :
    ax.isLocal first = ax.isLocal second := by
  cases ax with
  | declaration entity => rfl
  | subClassOf sub super =>
    obtain ⟨left, right⟩ := List.forall_mem_append.1 alike
    rw [Axiom.isLocal, Axiom.isLocal, class_extent left, class_extent right]
  | equivalentClasses operands => rw [Axiom.isLocal, Axiom.isLocal, class_extents alike]
  | disjointClasses operands => rw [Axiom.isLocal, Axiom.isLocal, class_extents alike]
  | disjointUnion iri operands =>
    obtain ⟨-, parts⟩ := List.forall_mem_cons.1 alike
    rw [Axiom.isLocal, Axiom.isLocal, ClassExpression.extent, ClassExpression.extent,
      alike.class_name List.mem_cons_self, class_extents parts]
  | subObjectPropertyOf sub super =>
    obtain ⟨-, rest⟩ := List.forall_mem_cons.1 alike
    rw [Axiom.isLocal, Axiom.isLocal, alike.property_extent List.mem_cons_self,
      property_extent rest List.mem_cons_self]
  | subPropertyChainOf chain super =>
    obtain ⟨links, whole⟩ := List.forall_mem_append.1 alike
    rw [Axiom.isLocal, Axiom.isLocal, Property.chainExtent, Property.chainExtent,
      property_extents links, property_extent whole List.mem_cons_self]
  | equivalentObjectProperties operands =>
    rw [Axiom.isLocal, Axiom.isLocal, property_extents alike]
  | disjointObjectProperties operands => rw [Axiom.isLocal, Axiom.isLocal, property_extents alike]
  | inverseObjectProperties first second =>
    obtain ⟨-, rest⟩ := List.forall_mem_cons.1 alike
    rw [Axiom.isLocal, Axiom.isLocal, alike.property_extent List.mem_cons_self,
      property_extent rest List.mem_cons_self]
  | objectPropertyDomain property domain =>
    obtain ⟨-, inside⟩ := List.forall_mem_cons.1 alike
    rw [Axiom.isLocal, Axiom.isLocal, alike.property_extent List.mem_cons_self,
      class_extent inside]
  | objectPropertyRange property range =>
    obtain ⟨-, inside⟩ := List.forall_mem_cons.1 alike
    rw [Axiom.isLocal, Axiom.isLocal, alike.property_extent List.mem_cons_self,
      class_extent inside]
  | objectProperty characteristic property =>
    rw [Axiom.isLocal, Axiom.isLocal, alike.property_extent List.mem_cons_self]
  | subDataPropertyOf sub super =>
    obtain ⟨-, rest⟩ := List.forall_mem_cons.1 alike
    rw [Axiom.isLocal, Axiom.isLocal, alike.property_extent List.mem_cons_self,
      property_extent rest List.mem_cons_self]
  | equivalentDataProperties operands =>
    rw [Axiom.isLocal, Axiom.isLocal, property_extents alike]
  | disjointDataProperties operands => rw [Axiom.isLocal, Axiom.isLocal, property_extents alike]
  | dataPropertyDomain property domain =>
    obtain ⟨-, inside⟩ := List.forall_mem_cons.1 alike
    rw [Axiom.isLocal, Axiom.isLocal, alike.property_extent List.mem_cons_self,
      class_extent inside]
  | dataPropertyRange property range =>
    rw [Axiom.isLocal, Axiom.isLocal, alike.property_extent List.mem_cons_self]
  | functionalDataProperty property =>
    rw [Axiom.isLocal, Axiom.isLocal, alike.property_extent List.mem_cons_self]
  | datatypeDefinition iri range => rfl
  | hasKey subject properties => rfl
  | sameIndividual individuals => rfl
  | differentIndividuals individuals => rfl
  | classAssertion expression individual =>
    obtain ⟨inside, -⟩ := List.forall_mem_append.1 alike
    rw [Axiom.isLocal, Axiom.isLocal, class_extent inside]
  | objectPropertyAssertion property source target =>
    rw [Axiom.isLocal, Axiom.isLocal, alike.property_extent List.mem_cons_self]
  | negativeObjectPropertyAssertion property source target =>
    rw [Axiom.isLocal, Axiom.isLocal, alike.property_extent List.mem_cons_self]
  | dataPropertyAssertion property source value =>
    rw [Axiom.isLocal, Axiom.isLocal, alike.property_extent List.mem_cons_self]
  | negativeDataPropertyAssertion property source value =>
    rw [Axiom.isLocal, Axiom.isLocal, alike.property_extent List.mem_cons_self]

end ReadAlike

end Signature

namespace Axiom

/-- Which of its own classes and properties, apart from those built in, are in the signature
decides whether an axiom is local. Nothing else that is put into the signature matters. -/
theorem isLocal_eq_of_same_members (ax : Axiom) :
    (∀ first second : Signature, first.convention = second.convention →
      (∀ entity ∈ ax.entities, entity.hasReading = true → (entity ∈ first ↔ entity ∈ second)) →
      ax.isLocal first = ax.isLocal second) ∧
    ∀ (signature : Signature) (others : List Entity),
      (∀ entity ∈ others, entity.kind = .individual ∨ entity.kind = .datatype ∨
        entity.isTop = true ∨ entity.isBottom = true ∨ entity ∉ ax.entities) →
      ax.isLocal (signature.extend others) = ax.isLocal signature := by
  have decided (first second : Signature) (convention : first.convention = second.convention)
      (members : ∀ entity ∈ ax.entities, entity.hasReading = true →
        (entity ∈ first ↔ entity ∈ second)) : ax.isLocal first = ax.isLocal second := by
    apply Signature.ReadAlike.isLocal
    apply Signature.readAlike_of_mem_iff convention
    intro entity mention
    exact members entity (mem_entities.2 mention)
  refine ⟨decided, fun signature others irrelevant => ?_⟩
  apply decided _ _ (Signature.convention_extend signature others)
  intro entity mention reading
  have notAdded : entity ∉ others := by
    intro added
    have without : entity.hasReading = false := by
      rw [Entity.hasReading_eq_false_iff]
      rcases irrelevant entity added with individual | datatype | top | bottom | unmentioned
      · rw [individual]
        exact .inl rfl
      · rw [datatype]
        exact .inl rfl
      · exact .inr (.inl top)
      · exact .inr (.inr bottom)
      · exact absurd mention unmentioned
    rw [reading] at without
    exact Bool.noConfusion without
  rw [Signature.mem_extend]
  exact or_iff_right notAdded

/-- An object property that shares its name with the class of an axiom matters as little as an
individual that the axiom lists. -/
theorem isLocal_eq_of_same_members_under_inverse :
    isLocal (.ofEntities [⟨.namedClass, "A"⟩, ⟨.objectProperty, "A"⟩] (.uniform .top))
        (.disjointUnion "A" [.hasSelf (.inverse (.object "r")), .oneOf ["a"]]) =
      isLocal (.ofEntities [⟨.namedClass, "A"⟩, ⟨.individual, "a"⟩] (.uniform .top))
        (.disjointUnion "A" [.hasSelf (.inverse (.object "r")), .oneOf ["a"]]) ∧
    isLocal (.insert (.ofFlavour .bottom) ⟨.individual, "a"⟩)
        (.disjointUnion "A" [.hasSelf (.inverse (.object "r")), .oneOf ["a"]]) =
      isLocal (.ofFlavour .bottom)
        (.disjointUnion "A" [.hasSelf (.inverse (.object "r")), .oneOf ["a"]]) := by
  obtain ⟨decided, ignored⟩ := isLocal_eq_of_same_members
    (.disjointUnion "A" [.hasSelf (.inverse (.object "r")), .oneOf ["a"]])
  have members : ∀ entity ∈ mentions
      (.disjointUnion "A" [.hasSelf (.inverse (.object "r")), .oneOf ["a"]]),
      entity.hasReading = true →
        (entity ∈ Signature.ofEntities [⟨.namedClass, "A"⟩, ⟨.objectProperty, "A"⟩]
            (.uniform .top) ↔
          entity ∈ Signature.ofEntities [⟨.namedClass, "A"⟩, ⟨.individual, "a"⟩]
            (.uniform .top)) := by
    decide +kernel
  exact ⟨decided _ _ rfl fun entity mention => members entity (mem_entities.1 mention),
    ignored _ [⟨.individual, "a"⟩] (by decide)⟩

end Axiom

end OntologyModules
