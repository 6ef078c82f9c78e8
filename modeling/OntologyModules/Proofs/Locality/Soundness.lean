import OntologyModules.Proofs.Locality.Consistency
import OntologyModules.Proofs.Locality.Rules
import OntologyModules.Proofs.Semantics.Reading

/-!
# Soundness of locality

The bounds and extents that the rules compute are right in every interpretation that follows the
signature, for well-typed expressions whose enumerations list few enough members that no count
saturates: bounds for class expressions and data ranges of every shape
(`Interpretation.Follows.bounds_sound`). An axiom that the rules call local therefore holds in
all these interpretations (`Interpretation.Follows.satisfies_of_isLocal`).
-/

namespace OntologyModules

universe u v

variable {Object : Type u} {Value : Type v}

namespace Extent

section

variable {α : Type u} {ι : Type} {operands : List ι} {extent : ι → Extent} {set : ι → Set α}

/-- Operands that the rule calls equivalent are the same set. -/
theorem eq_of_areEquivalent (rule : areEquivalent (operands.map extent) = true)
    (exclusive : ∀ operand ∈ operands, (extent operand).Exclusive)
    (describes : ∀ operand ∈ operands, (extent operand).Describes (set operand)) :
    ∀ first ∈ operands, ∀ second ∈ operands, set first = set second := by
  intro first mem second mem'
  rw [areEquivalent_iff (List.forall_mem_map.2 exclusive), List.length_map] at rule
  rcases rule with few | empty | full
  · match operands with
    | [] => exact absurd mem List.not_mem_nil
    | [single] => rw [List.mem_singleton.1 mem, List.mem_singleton.1 mem']
    | _ :: _ :: _ => exact absurd few (by simp)
  · rw [List.forall_mem_map] at empty
    rw [(describes first mem).empty (empty first mem),
      (describes second mem').empty (empty second mem')]
  · rw [List.forall_mem_map] at full
    rw [(describes first mem).full (full first mem),
      (describes second mem').full (full second mem')]

/-- Two sets of which one is said to be empty do not overlap. -/
theorem Describes.disjoint {first second : Extent} {s t : Set α} (left : first.Describes s)
    (right : second.Describes t) (either : first.empty = true ∨ second.empty = true) :
    Disjoint s t := by
  rcases either with empty | empty
  · rw [left.empty empty]
    exact Set.empty_disjoint t
  · rw [right.empty empty]
    exact Set.disjoint_empty s

section

variable {β : Type v} {relation : ι → β → Set α}

/-- Relations that the rule calls equivalent are the same. -/
theorem relations_eq_of_areEquivalent (rule : areEquivalent (operands.map extent) = true)
    (exclusive : ∀ operand ∈ operands, (extent operand).Exclusive)
    (describes : ∀ operand ∈ operands, ∀ x, (extent operand).Describes (relation operand x)) :
    ∀ first ∈ operands, ∀ second ∈ operands, relation first = relation second := by
  intro first mem second mem'
  funext x
  exact eq_of_areEquivalent rule exclusive (fun operand within => describes operand within x)
    first mem second mem'

/-- Relations that the rule calls disjoint relate nothing to the same thing. -/
theorem relations_disjoint_of_areDisjoint (rule : areDisjoint (operands.map extent) = true)
    (describes : ∀ operand ∈ operands, ∀ x, (extent operand).Describes (relation operand x)) :
    (operands.map relation).Pairwise fun first second => ∀ x, Disjoint (first x) (second x) := by
  rw [areDisjoint_iff, List.pairwise_map] at rule
  rw [List.pairwise_map]
  refine rule.imp_of_mem fun mem mem' either x => ?_
  exact (describes _ mem x).disjoint (describes _ mem' x) either

end

/-- What is said to be empty lies in everything, and everything in what is said to be full. -/
theorem Describes.subset {first second : Extent} {s t : Set α} (left : first.Describes s)
    (right : second.Describes t) (either : second.full = true ∨ first.empty = true) : s ⊆ t := by
  rcases either with full | empty
  · rw [right.full full]
    exact Set.subset_univ s
  · rw [left.empty empty]
    exact Set.empty_subset t

/-- Whatever is related to something is in a set that is full unless nothing is related. -/
theorem Describes.mem_of_nonempty {β : Type v} {related : Set β} {domain : Set α}
    {property expression : Extent} (left : property.Describes related)
    (right : expression.Describes domain)
    (either : expression.full = true ∨ property.empty = true) (some : related.Nonempty) (x : α) :
    x ∈ domain := by
  rcases either with full | empty
  · rw [right.full full]
    exact Set.mem_univ x
  · rw [left.empty empty] at some
    exact absurd some Set.not_nonempty_empty

/-- A whole that the rule calls a disjoint union of its parts is one. -/
theorem union_of_isDisjointUnion {whole : Extent} {s : Set α}
    (rule : whole.isDisjointUnion (operands.map extent) = true) (alone : whole.Exclusive)
    (exclusive : ∀ operand ∈ operands, (extent operand).Exclusive) (about : whole.Describes s)
    (describes : ∀ operand ∈ operands, (extent operand).Describes (set operand)) :
    s = unionList (operands.map set) ∧ (operands.map set).Pairwise Disjoint := by
  rw [isDisjointUnion_iff alone (List.forall_mem_map.2 exclusive)] at rule
  rw [List.pairwise_map]
  rcases rule with ⟨empty, all⟩ | ⟨full, single⟩
  · have union := (describes_union describes).empty (List.all_eq_true.2 all)
    refine ⟨(about.empty empty).trans union.symm, List.pairwise_of_forall_mem_list ?_⟩
    intro first mem second mem'
    exact (describes first mem).disjoint (describes second mem')
      (.inl (all _ (List.mem_map_of_mem mem)))
  · have union := (describes_union describes).full (List.any_eq_true.2 single.exists_full)
    have apart := List.pairwise_map.1 single.pairwise
    exact ⟨(about.full full).trans union.symm, apart.imp_of_mem fun mem mem' =>
      (describes _ mem).disjoint (describes _ mem')⟩

end

/-- A relation that is full or empty has the characteristics that the rule says. -/
theorem holds_of_has {α : Type u} {property : Extent} {relation : α → Set α}
    {characteristic : Characteristic} (rule : property.has characteristic = true)
    (describes : ∀ x, property.Describes (relation x)) : characteristic.Holds relation := by
  have full {x y : α} (full : property.full = true) : y ∈ relation x := by
    rw [(describes x).full full]
    exact Set.mem_univ y
  have empty {x y : α} (empty : property.empty = true) : y ∉ relation x := by
    rw [(describes x).empty empty]
    exact Set.notMem_empty y
  cases characteristic with
  | functional => exact fun x y related => absurd related (empty rule)
  | inverseFunctional => exact fun x y z related => absurd related (empty rule)
  | reflexive => exact fun x => full rule
  | irreflexive => exact fun x => empty rule
  | symmetric =>
    rcases Bool.or_eq_true_iff.1 rule with none | all
    · exact fun x y related => absurd related (empty none)
    · exact fun x y _ => full all
  | asymmetric => exact fun x y related => absurd related (empty rule)
  | transitive =>
    rcases Bool.or_eq_true_iff.1 rule with none | all
    · exact fun x y z related => absurd related (empty none)
    · exact fun x y z _ _ => full all

end Extent

namespace Interpretation

/-- The bounds of a data range are right about its values. -/
theorem describes_dataExtension (I : Interpretation Object Value) {range : DataRange}
    (small : range.memberCount < Saturating.greatest) :
    range.bounds.Describes (I.dataExtension range) := by
  have := I.nonempty_value
  induction range with
  | datatype iri =>
    refine Bounds.describes_datatypeBounds fun every => ?_
    obtain rfl : iri = Vocabulary.literal := beq_iff_eq.1 every
    exact I.datatypes_literal
  | complement range ih => exact (ih small).complement
  | intersection operands ih =>
    rw [DataRange.bounds, DataRange.boundsAll_eq_map, dataExtension, dataExtensionAll_eq_map]
    exact Bounds.describes_intersection (DataRange.fit_bounds small) fun operand mem =>
      ih operand mem ((DataRange.memberCount_le_of_mem mem).trans_lt small)
  | union operands ih =>
    rw [DataRange.bounds, DataRange.boundsAll_eq_map, dataExtension, dataExtensionAll_eq_map]
    exact Bounds.describes_union (DataRange.fit_bounds small) fun operand mem =>
      ih operand mem ((DataRange.memberCount_le_of_mem mem).trans_lt small)
  | oneOf members => exact Bounds.describes_ofMembers members I.literals small.le
  | restriction iri facets => exact Bounds.describes_ofExtent (Extent.describes_unknown _)

/-- What is said of a data range to be full or empty is, whatever it lists. -/
theorem describes_dataRange (I : Interpretation Object Value) (range : DataRange) :
    range.extent.Describes (I.dataExtension range) := by
  induction range with
  | datatype iri =>
    refine ⟨fun every => ?_, fun none => absurd none Bool.false_ne_true⟩
    obtain rfl : iri = Vocabulary.literal := beq_iff_eq.1 every
    exact I.datatypes_literal
  | complement range ih => exact ih.complement
  | intersection operands ih =>
    rw [DataRange.extent, DataRange.extentAll_eq_map, dataExtension, dataExtensionAll_eq_map]
    exact Extent.describes_intersection ih
  | union operands ih =>
    rw [DataRange.extent, DataRange.extentAll_eq_map, dataExtension, dataExtensionAll_eq_map]
    exact Extent.describes_union ih
  | oneOf members =>
    refine ⟨fun every => absurd every Bool.false_ne_true, fun none => ?_⟩
    obtain rfl : members = [] := List.isEmpty_iff.1 none
    refine Set.eq_empty_of_forall_notMem ?_
    rintro value ⟨member, mem, -⟩
    exact absurd mem List.not_mem_nil
  | restriction iri facets => exact Extent.describes_unknown _

namespace Follows

variable {I : Interpretation Object Value} {signature : Signature}

/-- The bounds of a class expression are right about its individuals. -/
theorem describes_classExtension (follows : I.Follows signature) {expression : ClassExpression}
    (typed : expression.isWellTyped = true) (small : expression.memberCount < Saturating.greatest) :
    (expression.bounds signature).Describes (I.classExtension expression) := by
  have := I.nonempty_object
  have := I.nonempty_value
  have valued {property : Property} {s : Set Object}
      (full : (property.extent signature).full = true → s = Set.univ) :
      (Property.valueBounds (property.extent signature)).Describes s := by
    rw [Property.valueBounds_eq_ofExtent]
    exact Bounds.describes_ofExtent ⟨full, fun none => absurd none Bool.false_ne_true⟩
  induction expression with
  | named iri =>
    rw [ClassExpression.bounds, Entity.bounds_eq_ofExtent]
    exact Bounds.describes_ofExtent (follows.describes_class iri)
  | thing => exact Bounds.describes_ofExtent Extent.describes_top
  | nothing => exact Bounds.describes_ofExtent Extent.describes_bottom
  | complement operand ih => exact (ih typed small).complement
  | intersection operands ih =>
    have each := ClassExpression.allWellTyped_iff.1 typed
    rw [ClassExpression.bounds, ClassExpression.boundsAll_eq_map, classExtension,
      classExtensionAll_eq_map]
    exact Bounds.describes_intersection (ClassExpression.fit_bounds signature small)
      fun operand mem => ih operand mem (each operand mem)
        ((ClassExpression.memberCount_le_of_mem mem).trans_lt small)
  | union operands ih =>
    have each := ClassExpression.allWellTyped_iff.1 typed
    rw [ClassExpression.bounds, ClassExpression.boundsAll_eq_map, classExtension,
      classExtensionAll_eq_map]
    exact Bounds.describes_union (ClassExpression.fit_bounds signature small)
      fun operand mem => ih operand mem (each operand mem)
        ((ClassExpression.memberCount_le_of_mem mem).trans_lt small)
  | oneOf members => exact Bounds.describes_ofMembers members I.individuals small.le
  | object quantifier property filler ih =>
    obtain ⟨sort, inside⟩ := Bool.and_eq_true_iff.1 typed
    exact Quantifier.describes_bounds (filler.consistent_bounds signature).lower_le_one
      (follows.describes_objectRelation sort) (ih inside small)
  | objectCount count property =>
    exact Quantifier.describes_count le_rfl (follows.describes_objectRelation typed)
      (Bounds.describes_ofExtent Extent.describes_top)
  | hasValue property value =>
    refine valued fun full => Set.eq_univ_of_forall fun x => ?_
    change I.individuals value ∈ I.objectRelation property x
    rw [(follows.describes_objectRelation typed x).full full]
    exact Set.mem_univ _
  | hasSelf property =>
    refine valued fun full => Set.eq_univ_of_forall fun x => ?_
    change x ∈ I.objectRelation property x
    rw [(follows.describes_objectRelation typed x).full full]
    exact Set.mem_univ x
  | data quantifier property filler =>
    exact Quantifier.describes_bounds filler.consistent_bounds.lower_le_one
      (follows.describes_dataRelation typed) (I.describes_dataExtension small)
  | dataCount count property =>
    exact Quantifier.describes_count le_rfl (follows.describes_dataRelation typed)
      (Bounds.describes_datatypeBounds fun _ => rfl)
  | dataHasValue property value =>
    refine valued fun full => Set.eq_univ_of_forall fun x => ?_
    change I.literals value ∈ I.dataRelation property x
    rw [(follows.describes_dataRelation typed x).full full]
    exact Set.mem_univ _

/-- What is said of a class expression to be full or empty is. -/
theorem describes_class_extent (follows : I.Follows signature) {expression : ClassExpression}
    (typed : expression.isWellTyped = true) (small : expression.memberCount < Saturating.greatest) :
    (expression.extent signature).Describes (I.classExtension expression) := by
  rw [← ClassExpression.extent_bounds]
  exact (follows.describes_classExtension typed small).extent

/-- What is said of a chain of properties to be full or empty is, unless the chain is empty. -/
theorem describes_composition (follows : I.Follows signature) {chain : List Property}
    (nonempty : chain ≠ []) (typed : ∀ property ∈ chain, property.isObject = true) (x : Object) :
    (Property.chainExtent signature chain).Describes (I.composition chain x) := by
  induction chain generalizing x with
  | nil => exact absurd rfl nonempty
  | cons first rest ih =>
    obtain ⟨sort, sorts⟩ := List.forall_mem_cons.1 typed
    have head := follows.describes_objectRelation sort x
    constructor
    · intro full
      obtain ⟨firstFull, restFull⟩ := Bool.and_eq_true_iff.1 full
      refine Set.eq_univ_of_forall fun z => ?_
      cases rest with
      | nil => exact ⟨z, (head.full firstFull).symm ▸ Set.mem_univ z, rfl⟩
      | cons second others =>
        -- Any individual may stand in the middle; the first one is at hand.
        have tail := (ih (List.cons_ne_nil second others) sorts x).full restFull
        exact ⟨x, (head.full firstFull).symm ▸ Set.mem_univ x, tail.symm ▸ Set.mem_univ z⟩
    · intro empty
      refine Set.eq_empty_of_forall_notMem ?_
      rintro z ⟨y, related, follows⟩
      rcases Bool.or_eq_true_iff.1 empty with firstEmpty | restEmpty
      · rw [head.empty firstEmpty] at related
        exact related
      · have some : rest ≠ [] := by
          rintro rfl
          exact absurd restEmpty Bool.false_ne_true
        rw [(ih some sorts y).empty restEmpty] at follows
        exact follows

section

variable (follows : I.Follows signature)

include follows

/-- What is said of each of some class expressions is right. -/
theorem describes_class_extents {operands : List ClassExpression}
    (typed : ClassExpression.allWellTyped operands = true)
    (small : ClassExpression.memberCountAll operands < Saturating.greatest) :
    ∀ operand ∈ operands, (operand.extent signature).Describes (I.classExtension operand) :=
  fun operand mem => follows.describes_class_extent
    (ClassExpression.allWellTyped_iff.1 typed operand mem)
    ((ClassExpression.memberCount_le_of_mem mem).trans_lt small)

/-- What is said of each of some object properties is right. -/
theorem describes_objectRelations {operands : List Property}
    (typed : operands.all (·.isObject) = true) :
    ∀ operand ∈ operands, ∀ x,
      (operand.extent signature).Describes (I.objectRelation operand x) :=
  fun operand mem => follows.describes_objectRelation (List.all_eq_true.1 typed operand mem)

/-- What is said of each of some data properties is right. -/
theorem describes_dataRelations {operands : List Property}
    (typed : operands.all (·.isData) = true) :
    ∀ operand ∈ operands, ∀ x, (operand.extent signature).Describes (I.dataRelation operand x) :=
  fun operand mem => follows.describes_dataRelation (List.all_eq_true.1 typed operand mem)

end

/-- An axiom that the rules call local holds. -/
theorem satisfies_of_isLocal (follows : I.Follows signature) {ax : Axiom}
    (typed : ax.isWellTyped = true) (small : ax.memberCount < Saturating.greatest)
    (isLocal : ax.isLocal signature = true) : I.Satisfies ax := by
  cases ax with
  | declaration entity => trivial
  | subClassOf sub super =>
    obtain ⟨subTyped, superTyped⟩ := Bool.and_eq_true_iff.1 typed
    rw [Axiom.memberCount] at small
    exact (follows.describes_class_extent subTyped (by omega)).subset
      (follows.describes_class_extent superTyped (by omega)) (Bool.or_eq_true_iff.1 isLocal).symm
  | equivalentClasses operands =>
    exact Extent.eq_of_areEquivalent isLocal
      (fun operand _ => operand.exclusive_extent signature)
      (follows.describes_class_extents typed small)
  | disjointClasses operands =>
    have known := follows.describes_class_extents typed small
    have apart := List.pairwise_map.1 (Extent.areDisjoint_iff.1 isLocal)
    rw [Satisfies, List.pairwise_map]
    exact apart.imp_of_mem fun mem mem' => (known _ mem).disjoint (known _ mem')
  | disjointUnion iri operands =>
    exact Extent.union_of_isDisjointUnion isLocal (Entity.exclusive_extent signature _)
      (fun operand _ => operand.exclusive_extent signature) (follows.describes_class iri)
      (follows.describes_class_extents typed small)
  | subObjectPropertyOf sub super =>
    obtain ⟨subTyped, superTyped⟩ := Bool.and_eq_true_iff.1 typed
    exact fun x => (follows.describes_objectRelation subTyped x).subset
      (follows.describes_objectRelation superTyped x) (Bool.or_eq_true_iff.1 isLocal)
  | subPropertyChainOf chain super =>
    obtain ⟨links, superTyped⟩ := Bool.and_eq_true_iff.1 typed
    intro x
    rcases Bool.or_eq_true_iff.1 isLocal with full | empty
    · rw [(follows.describes_objectRelation superTyped x).full full]
      exact Set.subset_univ _
    · have some : chain ≠ [] := by
        rintro rfl
        exact absurd empty Bool.false_ne_true
      rw [(follows.describes_composition some (List.all_eq_true.1 links) x).empty empty]
      exact Set.empty_subset _
  | equivalentObjectProperties operands =>
    exact Extent.relations_eq_of_areEquivalent isLocal
      (fun operand _ => operand.exclusive_extent signature)
      (follows.describes_objectRelations typed)
  | disjointObjectProperties operands =>
    exact Extent.relations_disjoint_of_areDisjoint isLocal (follows.describes_objectRelations typed)
  | inverseObjectProperties first second =>
    obtain ⟨firstTyped, secondTyped⟩ := Bool.and_eq_true_iff.1 typed
    intro x y
    have left := follows.describes_objectRelation firstTyped x
    have right := follows.describes_objectRelation secondTyped y
    rcases Bool.or_eq_true_iff.1 isLocal with empty | full
    · obtain ⟨firstEmpty, secondEmpty⟩ := Bool.and_eq_true_iff.1 empty
      rw [left.empty firstEmpty, right.empty secondEmpty]
      exact iff_of_false (Set.notMem_empty y) (Set.notMem_empty x)
    · obtain ⟨firstFull, secondFull⟩ := Bool.and_eq_true_iff.1 full
      rw [left.full firstFull, right.full secondFull]
      exact iff_of_true (Set.mem_univ y) (Set.mem_univ x)
  | objectPropertyDomain property domain =>
    obtain ⟨sort, inside⟩ := Bool.and_eq_true_iff.1 typed
    exact fun x some => (follows.describes_objectRelation sort x).mem_of_nonempty
      (follows.describes_class_extent inside small) (Bool.or_eq_true_iff.1 isLocal) some x
  | objectPropertyRange property range =>
    obtain ⟨sort, inside⟩ := Bool.and_eq_true_iff.1 typed
    exact fun x => (follows.describes_objectRelation sort x).subset
      (follows.describes_class_extent inside small) (Bool.or_eq_true_iff.1 isLocal)
  | objectProperty characteristic property =>
    exact Extent.holds_of_has isLocal (follows.describes_objectRelation typed)
  | subDataPropertyOf sub super =>
    obtain ⟨subTyped, superTyped⟩ := Bool.and_eq_true_iff.1 typed
    exact fun x => (follows.describes_dataRelation subTyped x).subset
      (follows.describes_dataRelation superTyped x) (Bool.or_eq_true_iff.1 isLocal)
  | equivalentDataProperties operands =>
    exact Extent.relations_eq_of_areEquivalent isLocal
      (fun operand _ => operand.exclusive_extent signature) (follows.describes_dataRelations typed)
  | disjointDataProperties operands =>
    exact Extent.relations_disjoint_of_areDisjoint isLocal (follows.describes_dataRelations typed)
  | dataPropertyDomain property domain =>
    obtain ⟨sort, inside⟩ := Bool.and_eq_true_iff.1 typed
    exact fun x some => (follows.describes_dataRelation sort x).mem_of_nonempty
      (follows.describes_class_extent inside small) (Bool.or_eq_true_iff.1 isLocal) some x
  | dataPropertyRange property range =>
    exact fun x => (follows.describes_dataRelation typed x).subset (I.describes_dataRange range)
      (Bool.or_eq_true_iff.1 isLocal)
  | functionalDataProperty property =>
    intro x
    rw [(follows.describes_dataRelation typed x).empty isLocal]
    exact Set.subsingleton_empty
  | datatypeDefinition iri range => exact absurd isLocal Bool.false_ne_true
  | hasKey subject properties => exact absurd isLocal Bool.false_ne_true
  | sameIndividual individuals => exact absurd isLocal Bool.false_ne_true
  | differentIndividuals individuals => exact absurd isLocal Bool.false_ne_true
  | classAssertion expression individual =>
    rw [Satisfies, (follows.describes_class_extent typed small).full isLocal]
    exact Set.mem_univ _
  | objectPropertyAssertion property source target =>
    rw [Satisfies, (follows.describes_objectRelation typed _).full isLocal]
    exact Set.mem_univ _
  | negativeObjectPropertyAssertion property source target =>
    rw [Satisfies, (follows.describes_objectRelation typed _).empty isLocal]
    exact Set.notMem_empty _
  | dataPropertyAssertion property source value =>
    rw [Satisfies, (follows.describes_dataRelation typed _).full isLocal]
    exact Set.mem_univ _
  | negativeDataPropertyAssertion property source value =>
    rw [Satisfies, (follows.describes_dataRelation typed _).empty isLocal]
    exact Set.notMem_empty _

/-- The four bounds of class expressions and of data ranges are right in every interpretation
that follows the signature, and a chain of properties is empty or full where its bounds say so.
-/
theorem bounds_sound (follows : I.Follows signature) :
    (∀ expression : ClassExpression, expression.isWellTyped = true →
      expression.memberCount < Saturating.greatest →
        (expression.bounds signature).Describes (I.classExtension expression)) ∧
    (∀ range : DataRange, range.memberCount < Saturating.greatest →
      range.bounds.Describes (I.dataExtension range)) ∧
    ∀ chain : List Property, chain ≠ [] → (∀ property ∈ chain, property.isObject = true) →
      ((Property.chainBounds signature chain).upper = .atMost 0 →
        ∀ x, I.composition chain x = ∅) ∧
      ((Property.chainBounds signature chain).upperComplement = .atMost 0 →
        ∀ x, I.composition chain x = Set.univ) := by
  refine ⟨fun expression typed small => follows.describes_classExtension typed small,
    fun range small => I.describes_dataExtension small, fun chain nonempty typed => ?_⟩
  have known := follows.describes_composition nonempty typed
  rw [Property.chainBounds_eq_ofExtent]
  constructor
  · intro zero x
    exact (known x).empty (Bounds.lift_eq_atMost_zero.1 zero)
  · intro zero x
    exact (known x).full (Bounds.lift_eq_atMost_zero.1 zero)

/-- With properties read as universal and classes as empty, an enumeration and the complement of
a class together leave nothing out, and following a property back and forth leads anywhere. -/
theorem bounds_sound_over_naturals :
    (ClassExpression.bounds (.ofConvention ⟨.bottom, .top⟩)
      (.union [.oneOf ["a"], .complement (.named "A")])).Describes
        (((default : Interpretation Nat Bool).adjust (.ofConvention ⟨.bottom, .top⟩)).classExtension
          (.union [.oneOf ["a"], .complement (.named "A")])) ∧
    (DataRange.bounds (.oneOf [.ofString "x", .ofString "y"])).Describes
      (((default : Interpretation Nat Bool).adjust (.ofConvention ⟨.bottom, .top⟩)).dataExtension
        (.oneOf [.ofString "x", .ofString "y"])) ∧
    ((default : Interpretation Nat Bool).adjust (.ofConvention ⟨.bottom, .top⟩)).composition
      [.object "r", .inverse (.object "r")] 0 = Set.univ := by
  obtain ⟨classes, ranges, chains⟩ := bounds_sound
    ((default : Interpretation Nat Bool).follows_adjust (.ofConvention ⟨.bottom, .top⟩))
  exact ⟨classes _ (by decide) (by decide), ranges _ (by decide),
    (chains [.object "r", .inverse (.object "r")] (by decide) (by decide)).2 (by decide) 0⟩

end Follows

end Interpretation

namespace Axiom

/-- An axiom that is local for a signature holds in every interpretation that reads the names
outside the signature as its convention says, whatever all other names denote. -/
theorem isLocal_sound {signature : Signature} {ax : Axiom} (typed : ax.isWellTyped = true)
    (small : ax.memberCount < Saturating.greatest) (isLocal : ax.isLocal signature = true)
    {Object : Type u} {Value : Type v} (I : Interpretation Object Value)
    (follows : I.Follows signature) : I.Satisfies ax :=
  follows.satisfies_of_isLocal typed small isLocal

/-- Nothing is related to two different individuals by one name, however often it is listed. -/
theorem isLocal_sound_of_repeated_member :
    ((default : Interpretation Nat Bool).adjust
      (.ofEntities [⟨.objectProperty, "r"⟩] ⟨.top, .bottom⟩)).Satisfies
        (.subClassOf (.object (.count (.atLeast 2)) (.object "r") (.oneOf ["a", "a"]))
          .nothing) :=
  isLocal_sound (by decide) (by decide) (by decide) _
    ((default : Interpretation Nat Bool).follows_adjust
      (.ofEntities [⟨.objectProperty, "r"⟩] ⟨.top, .bottom⟩))

end Axiom

end OntologyModules
