import OntologyModules.Proofs.Cardinality.Refines
import OntologyModules.Proofs.Locality.Expression
import OntologyModules.Proofs.Locality.Rules

/-!
# Larger signatures know less

A larger signature of the same convention reads fewer names, so the rules know less under it:
what they say of an expression under the larger signature they also say under the smaller one,
and the bounds under the smaller one leave no more room (`Signature.PartOf.bounds`). Fewer
axioms are therefore local for a larger signature (`Signature.PartOf.isLocal`), so an axiom that
is not local stays so while a module grows.
-/

namespace OntologyModules

/-- The first signature has the convention of the second one and no other entities. -/
structure Signature.PartOf (small large : Signature) : Prop where
  /-- Names outside are read alike. -/
  convention : small.convention = large.convention
  /-- Entities of the first are entities of the second. -/
  included : ∀ entity ∈ small, entity ∈ large

namespace Count

variable {property property' : Extent} {filler filler' : Bounds} {limit : Count}

/-- A limit is surely met by all that more is known of. -/
theorem SurelyMet.mono (met : limit.SurelyMet property' filler')
    (relation : property.Refines property') (inside : filler.Refines filler') :
    limit.SurelyMet property filler := by
  have lower := LowerBound.toENat_le_toENat.2 inside.lower
  have upper := UpperBound.toENat_le_toENat.2 inside.upper
  have enough {number : UInt32} (met : EnoughForAll property' filler' number) :
      EnoughForAll property filler number :=
    met.imp_right fun ⟨full, many⟩ => ⟨relation.full full, many.trans lower⟩
  have fewEnough {number : UInt32} (met : FewEnoughForAll property' filler' number) :
      FewEnoughForAll property filler number := met.imp relation.empty upper.trans
  cases limit with
  | atLeast number => exact enough met
  | atMost number => exact fewEnough met
  | exactly number => exact ⟨enough met.1, fewEnough met.2⟩

/-- A limit is surely missed by all that more is known of. -/
theorem SurelyMissed.mono (missed : limit.SurelyMissed property' filler')
    (relation : property.Refines property') (inside : filler.Refines filler') :
    limit.SurelyMissed property filler := by
  have lower := LowerBound.toENat_le_toENat.2 inside.lower
  have upper := UpperBound.toENat_le_toENat.2 inside.upper
  have tooFew {number : UInt32} (missed : TooFewForAll property' filler' number) :
      TooFewForAll property filler number :=
    missed.imp_right fun either => either.imp relation.empty upper.trans_lt
  have tooMany {number : UInt32} (missed : TooManyForAll property' filler' number) :
      TooManyForAll property filler number :=
    ⟨relation.full missed.1, missed.2.trans_le lower⟩
  cases limit with
  | atLeast number => exact tooFew missed
  | atMost number => exact tooMany missed
  | exactly number => exact missed.imp tooFew tooMany

end Count

/-- The bounds of a restriction are refined where its property and its filler are. -/
theorem Quantifier.refines_bounds {property property' : Extent} {filler filler' : Bounds}
    {quantifier : Quantifier} (single : filler.lower.toENat ≤ 1)
    (single' : filler'.lower.toENat ≤ 1) (relation : property.Refines property')
    (inside : filler.Refines filler') :
    (quantifier.bounds property filler).Refines (quantifier.bounds property' filler') := by
  rw [@bounds_eq_ofExtent property filler, @bounds_eq_ofExtent property' filler']
  apply Bounds.refines_ofExtent
  constructor
  · rw [full_iff, full_iff]
    intro met
    cases quantifier with
    | existential =>
      have enough : (Count.atLeast 1).SurelyMet property' filler' := met
      exact enough.mono relation inside
    | universal =>
      have least := UpperBound.toENat_le_toENat.2 inside.upperComplement
      exact met.imp relation.empty fun zero => le_zero_iff.1 (least.trans zero.le)
    | count limit => exact Count.SurelyMet.mono met relation inside
  · rw [empty_iff single, empty_iff single']
    intro missed
    cases quantifier with
    | existential =>
      have tooFew : (Count.atLeast 1).SurelyMissed property' filler' := missed
      exact tooFew.mono relation inside
    | universal =>
      have greatest := LowerBound.toENat_le_toENat.2 inside.lowerComplement
      exact ⟨relation.full missed.1, missed.2.trans greatest⟩
    | count limit => exact Count.SurelyMissed.mono missed relation inside

namespace Extent

variable {ι : Type} {operands : List ι} {first second : ι → Extent}

/-- Operands that are equivalent stay so when more is known of them. -/
theorem areEquivalent_mono
    (refines : ∀ operand ∈ operands, (first operand).Refines (second operand))
    (exclusive : ∀ operand ∈ operands, (first operand).Exclusive)
    (exclusive' : ∀ operand ∈ operands, (second operand).Exclusive)
    (rule : areEquivalent (operands.map second) = true) :
    areEquivalent (operands.map first) = true := by
  rw [areEquivalent_iff (List.forall_mem_map.2 exclusive'), List.length_map, List.forall_mem_map,
    List.forall_mem_map] at rule
  rw [areEquivalent_iff (List.forall_mem_map.2 exclusive), List.length_map, List.forall_mem_map,
    List.forall_mem_map]
  rcases rule with few | empty | full
  · exact .inl few
  · exact .inr (.inl fun operand mem => (refines operand mem).empty (empty operand mem))
  · exact .inr (.inr fun operand mem => (refines operand mem).full (full operand mem))

/-- Operands that are disjoint stay so when more is known of them. -/
theorem areDisjoint_mono
    (refines : ∀ operand ∈ operands, (first operand).Refines (second operand))
    (rule : areDisjoint (operands.map second) = true) :
    areDisjoint (operands.map first) = true := by
  rw [areDisjoint_iff, List.pairwise_map] at rule ⊢
  exact rule.imp_of_mem fun mem mem' either =>
    either.imp (refines _ mem).empty (refines _ mem').empty

/-- A single full part stays the only one when more is known of the parts. -/
theorem HasSingleFullPart.mono
    (refines : ∀ operand ∈ operands, (first operand).Refines (second operand))
    (single : HasSingleFullPart (operands.map second)) :
    HasSingleFullPart (operands.map first) := by
  obtain ⟨before, part, after, split, full, earlier, later⟩ := single
  obtain ⟨before, others, rfl, rfl, remaining⟩ := List.map_eq_append_iff.1 split
  obtain ⟨operand, after, rfl, rfl, rfl⟩ := List.map_eq_cons_iff.1 remaining
  rw [List.forall_mem_append, List.forall_mem_cons] at refines
  obtain ⟨refinesBefore, refinesPart, refinesAfter⟩ := refines
  rw [List.forall_mem_map] at earlier later
  refine ⟨before.map first, first operand, after.map first, by rw [List.map_append, List.map_cons],
    refinesPart.full full, ?_, ?_⟩
  · rw [List.forall_mem_map]
    exact fun other mem => (refinesBefore other mem).empty (earlier other mem)
  · rw [List.forall_mem_map]
    exact fun other mem => (refinesAfter other mem).empty (later other mem)

/-- A disjoint union stays one when more is known of the whole and of the parts. -/
theorem isDisjointUnion_mono {whole whole' : Extent} (known : whole.Refines whole')
    (refines : ∀ operand ∈ operands, (first operand).Refines (second operand))
    (alone : whole.Exclusive) (alone' : whole'.Exclusive)
    (exclusive : ∀ operand ∈ operands, (first operand).Exclusive)
    (exclusive' : ∀ operand ∈ operands, (second operand).Exclusive)
    (rule : whole'.isDisjointUnion (operands.map second) = true) :
    whole.isDisjointUnion (operands.map first) = true := by
  rw [isDisjointUnion_iff alone' (List.forall_mem_map.2 exclusive'), List.forall_mem_map] at rule
  rw [isDisjointUnion_iff alone (List.forall_mem_map.2 exclusive), List.forall_mem_map]
  rcases rule with ⟨empty, all⟩ | ⟨full, single⟩
  · exact .inl ⟨known.empty empty, fun operand mem => (refines operand mem).empty (all operand mem)⟩
  · exact .inr ⟨known.full full, single.mono refines⟩

/-- A property keeps its characteristics when more is known of it. -/
theorem has_mono {property property' : Extent} (known : property.Refines property')
    {characteristic : Characteristic} (rule : property'.has characteristic = true) :
    property.has characteristic = true := by
  cases characteristic with
  | functional => exact known.empty rule
  | inverseFunctional => exact known.empty rule
  | reflexive => exact known.full rule
  | irreflexive => exact known.empty rule
  | symmetric =>
    exact Bool.or_eq_true_iff.2 ((Bool.or_eq_true_iff.1 rule).imp known.empty known.full)
  | asymmetric => exact known.empty rule
  | transitive =>
    exact Bool.or_eq_true_iff.2 ((Bool.or_eq_true_iff.1 rule).imp known.empty known.full)

end Extent

namespace Signature.PartOf

variable {small large : Signature}

/-- A name that the larger signature reads is read alike by the smaller one. -/
theorem reads (part : small.PartOf large) {entity : Entity} (reads : large.Reads entity) :
    small.Reads entity := ⟨fun mem => reads.1 (part.included entity mem), reads.2⟩

/-- More is known of a name under the smaller signature. -/
theorem entity_extent (part : small.PartOf large) (entity : Entity) :
    (entity.extent small).Refines (entity.extent large) where
  full := by
    rw [Entity.full_iff, Entity.full_iff, Signature.flavour_congr part.convention]
    exact Or.imp_right fun known => ⟨part.reads known.1, known.2⟩
  empty := by
    rw [Entity.empty_iff, Entity.empty_iff, Signature.flavour_congr part.convention]
    exact Or.imp_right fun known => ⟨part.reads known.1, known.2⟩

/-- More is known of a property under the smaller signature. -/
theorem property_extent (part : small.PartOf large) (property : Property) :
    (property.extent small).Refines (property.extent large) := by
  rw [Property.extent_eq_named, Property.extent_eq_named]
  exact part.entity_extent property.named

/-- More is known of a chain under the smaller signature. -/
theorem chain_extent (part : small.PartOf large) (chain : List Property) :
    (Property.chainExtent small chain).Refines (Property.chainExtent large chain) :=
  Extent.refines_intersection fun property _ => part.property_extent property

/-- The bounds of a class expression leave no more room under the smaller signature. -/
theorem class_bounds (part : small.PartOf large) {expression : ClassExpression}
    (few : expression.memberCount < Saturating.greatest) :
    (expression.bounds small).Refines (expression.bounds large) := by
  have valued (property : Property) : (Property.valueBounds (property.extent small)).Refines
      (Property.valueBounds (property.extent large)) := by
    rw [Property.valueBounds_eq_ofExtent, Property.valueBounds_eq_ofExtent]
    exact Bounds.refines_ofExtent ⟨(part.property_extent property).full, id⟩
  have counted (count : Count) (property : Property) {filler : Bounds}
      (single : filler.lower.toENat ≤ 1) :
      (count.bounds (property.extent small) filler).Refines
        (count.bounds (property.extent large) filler) :=
    show ((Quantifier.count count).bounds (property.extent small) filler).Refines
      ((Quantifier.count count).bounds (property.extent large) filler) from
      Quantifier.refines_bounds single single (part.property_extent property) (.refl filler)
  induction expression with
  | named iri =>
    rw [ClassExpression.bounds, ClassExpression.bounds, Entity.bounds_eq_ofExtent,
      Entity.bounds_eq_ofExtent]
    exact Bounds.refines_ofExtent (part.entity_extent _)
  | thing => exact .refl _
  | nothing => exact .refl _
  | complement operand ih => exact (ih few).complement
  | intersection operands ih =>
    rw [ClassExpression.bounds, ClassExpression.bounds, ClassExpression.boundsAll_eq_map,
      ClassExpression.boundsAll_eq_map]
    exact Bounds.refines_intersection (ClassExpression.fit_bounds small few)
      (ClassExpression.fit_bounds large few) fun operand mem =>
        ih operand mem ((ClassExpression.memberCount_le_of_mem mem).trans_lt few)
  | union operands ih =>
    rw [ClassExpression.bounds, ClassExpression.bounds, ClassExpression.boundsAll_eq_map,
      ClassExpression.boundsAll_eq_map]
    exact Bounds.refines_union (ClassExpression.fit_bounds small few)
      (ClassExpression.fit_bounds large few) fun operand mem =>
        ih operand mem ((ClassExpression.memberCount_le_of_mem mem).trans_lt few)
  | oneOf members => exact .refl _
  | object quantifier property filler ih =>
    exact Quantifier.refines_bounds (filler.consistent_bounds small).lower_le_one
      (filler.consistent_bounds large).lower_le_one (part.property_extent property) (ih few)
  | objectCount count property => exact counted count property le_rfl
  | hasValue property value => exact valued property
  | hasSelf property => exact valued property
  | data quantifier property filler =>
    exact Quantifier.refines_bounds filler.consistent_bounds.lower_le_one
      filler.consistent_bounds.lower_le_one (part.property_extent property) (.refl filler.bounds)
  | dataCount count property => exact counted count property le_rfl
  | dataHasValue property value => exact valued property

/-- More is known of a class expression under the smaller signature. -/
theorem class_extent (part : small.PartOf large) {expression : ClassExpression}
    (few : expression.memberCount < Saturating.greatest) :
    (expression.extent small).Refines (expression.extent large) := by
  rw [← ClassExpression.extent_bounds, ← ClassExpression.extent_bounds]
  exact (part.class_bounds few).extent

/-- More is known of an expression of any kind under the smaller signature. -/
theorem expression_extent (part : small.PartOf large) {expression : Expression}
    (few : expression.memberCount < Saturating.greatest) :
    (expression.extent small).Refines (expression.extent large) := by
  cases expression with
  | ofClass expression => exact part.class_extent few
  | ofRange range => exact .refl range.extent
  | ofProperty property => exact part.property_extent property
  | ofChain chain => exact part.chain_extent chain

/-- The bounds of an expression of any kind leave no more room under the smaller signature. -/
theorem expression_bounds (part : small.PartOf large) {expression : Expression}
    (few : expression.memberCount < Saturating.greatest) :
    (expression.bounds small).Refines (expression.bounds large) := by
  cases expression with
  | ofClass expression => exact part.class_bounds few
  | ofRange range => exact .refl range.bounds
  | ofProperty property =>
    rw [Expression.bounds, Expression.bounds, Property.bounds_eq_ofExtent,
      Property.bounds_eq_ofExtent]
    exact Bounds.refines_ofExtent (part.property_extent property)
  | ofChain chain =>
    rw [Expression.bounds, Expression.bounds, Property.chainBounds_eq_ofExtent,
      Property.chainBounds_eq_ofExtent]
    exact Bounds.refines_ofExtent (part.chain_extent chain)

/-- An axiom that is local for the larger signature is local for the smaller one. -/
theorem isLocal (part : small.PartOf large) {ax : Axiom}
    (few : ax.memberCount < Saturating.greatest) (isLocal : ax.isLocal large = true) :
    ax.isLocal small = true := by
  have classes {operands : List ClassExpression}
      (few : ClassExpression.memberCountAll operands < Saturating.greatest) :
      ∀ operand ∈ operands, (operand.extent small).Refines (operand.extent large) :=
    fun operand mem =>
      part.class_extent ((ClassExpression.memberCount_le_of_mem mem).trans_lt few)
  have either {first second first' second' : Bool} (rule : (first' || second') = true)
      (left : first' = true → first = true) (right : second' = true → second = true) :
      (first || second) = true :=
    Bool.or_eq_true_iff.2 ((Bool.or_eq_true_iff.1 rule).imp left right)
  have both {first second first' second' : Bool} (rule : (first' && second') = true)
      (left : first' = true → first = true) (right : second' = true → second = true) :
      (first && second) = true :=
    Bool.and_eq_true_iff.2 ((Bool.and_eq_true_iff.1 rule).imp left right)
  cases ax with
  | declaration entity => rfl
  | subClassOf sub super =>
    rw [Axiom.memberCount] at few
    exact either isLocal (part.class_extent (by omega)).empty (part.class_extent (by omega)).full
  | equivalentClasses operands =>
    exact Extent.areEquivalent_mono (classes few) (fun operand _ => operand.exclusive_extent small)
      (fun operand _ => operand.exclusive_extent large) isLocal
  | disjointClasses operands => exact Extent.areDisjoint_mono (classes few) isLocal
  | disjointUnion iri operands =>
    exact Extent.isDisjointUnion_mono (part.entity_extent ⟨.namedClass, iri⟩) (classes few)
      (Entity.exclusive_extent small _) (Entity.exclusive_extent large _)
      (fun operand _ => operand.exclusive_extent small)
      (fun operand _ => operand.exclusive_extent large) isLocal
  | subObjectPropertyOf sub super =>
    exact either isLocal (part.property_extent super).full (part.property_extent sub).empty
  | subPropertyChainOf chain super =>
    exact either isLocal (part.property_extent super).full (part.chain_extent chain).empty
  | equivalentObjectProperties operands =>
    exact Extent.areEquivalent_mono (fun operand _ => part.property_extent operand)
      (fun operand _ => operand.exclusive_extent small)
      (fun operand _ => operand.exclusive_extent large) isLocal
  | disjointObjectProperties operands =>
    exact Extent.areDisjoint_mono (fun operand _ => part.property_extent operand) isLocal
  | inverseObjectProperties first second =>
    have left := part.property_extent first
    have right := part.property_extent second
    exact either isLocal (fun empty => both empty left.empty right.empty)
      fun full => both full left.full right.full
  | objectPropertyDomain property domain =>
    exact either isLocal (part.class_extent few).full (part.property_extent property).empty
  | objectPropertyRange property range =>
    exact either isLocal (part.class_extent few).full (part.property_extent property).empty
  | objectProperty characteristic property =>
    exact Extent.has_mono (part.property_extent property) isLocal
  | subDataPropertyOf sub super =>
    exact either isLocal (part.property_extent super).full (part.property_extent sub).empty
  | equivalentDataProperties operands =>
    exact Extent.areEquivalent_mono (fun operand _ => part.property_extent operand)
      (fun operand _ => operand.exclusive_extent small)
      (fun operand _ => operand.exclusive_extent large) isLocal
  | disjointDataProperties operands =>
    exact Extent.areDisjoint_mono (fun operand _ => part.property_extent operand) isLocal
  | dataPropertyDomain property domain =>
    exact either isLocal (part.class_extent few).full (part.property_extent property).empty
  | dataPropertyRange property range =>
    exact either isLocal id (part.property_extent property).empty
  | functionalDataProperty property => exact (part.property_extent property).empty isLocal
  | datatypeDefinition iri range => exact isLocal
  | hasKey subject properties => exact isLocal
  | sameIndividual individuals => exact isLocal
  | differentIndividuals individuals => exact isLocal
  | classAssertion expression individual => exact (part.class_extent few).full isLocal
  | objectPropertyAssertion property source target =>
    exact (part.property_extent property).full isLocal
  | negativeObjectPropertyAssertion property source target =>
    exact (part.property_extent property).empty isLocal
  | dataPropertyAssertion property source value =>
    exact (part.property_extent property).full isLocal
  | negativeDataPropertyAssertion property source value =>
    exact (part.property_extent property).empty isLocal

end Signature.PartOf

namespace Signature

/-- Locality, universality and emptiness are lost and never gained as a signature grows, and
every bound gives more room. -/
theorem locality_antitone {small large : Signature}
    (convention : small.convention = large.convention)
    (included : ∀ entity ∈ small, entity ∈ large) :
    (∀ ax : Axiom, ax.memberCount < Saturating.greatest →
      ax.isLocal large = true → ax.isLocal small = true) ∧
    ∀ expression : Expression, expression.memberCount < Saturating.greatest →
      ((expression.extent large).full = true → (expression.extent small).full = true) ∧
      ((expression.extent large).empty = true → (expression.extent small).empty = true) ∧
      (expression.bounds small).upper ≤ (expression.bounds large).upper ∧
      (expression.bounds small).upperComplement ≤ (expression.bounds large).upperComplement ∧
      (expression.bounds large).lower ≤ (expression.bounds small).lower ∧
      (expression.bounds large).lowerComplement ≤ (expression.bounds small).lowerComplement := by
  have part : small.PartOf large := ⟨convention, included⟩
  refine ⟨fun ax few isLocal => part.isLocal few isLocal, fun expression few => ?_⟩
  have known := part.expression_extent few
  have room := part.expression_bounds few
  exact ⟨known.full, known.empty, room.upper, room.upperComplement, room.lower,
    room.lowerComplement⟩

/-- Where a class is in the signature, leaving it out keeps an axiom local and lowers a bound. -/
theorem locality_antitone_of_one_class :
    (Axiom.subClassOf (.intersection [.named "A", .named "B"]) .nothing).isLocal
      (.ofFlavour .bottom) = true ∧
    (Expression.bounds (.ofFlavour .bottom) (.ofClass (.union [.named "A", .oneOf ["a"]]))).upper ≤
      (Expression.bounds (.ofEntities [⟨.namedClass, "A"⟩] (.uniform .bottom))
        (.ofClass (.union [.named "A", .oneOf ["a"]]))).upper := by
  have included : ∀ entity ∈ ofFlavour .bottom,
      entity ∈ ofEntities [⟨.namedClass, "A"⟩] (.uniform .bottom) :=
    fun entity mem => absurd mem (EntityPartition.not_mem_empty entity)
  have convention : (ofFlavour .bottom).convention =
      (ofEntities [⟨.namedClass, "A"⟩] (.uniform .bottom)).convention := rfl
  obtain ⟨axioms, expressions⟩ := locality_antitone convention included
  exact ⟨axioms _ (by decide) (by decide), (expressions _ (by decide)).2.2.1⟩

end Signature

end OntologyModules
