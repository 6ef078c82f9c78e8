import OntologyModules.Proofs.Locality.Coherence
import OntologyModules.Proofs.Locality.Rules

/-!
# Shortcut axioms

Most kinds of axioms abbreviate others: equivalent classes lie within each other, a functional
property leads everything to at most one thing. `Axiom.expansion` writes such an axiom out, and
the axiom is local exactly if all that it is written out to is
(`Axiom.isLocal_iff_expansion`). The rules for the shortcuts pass over lists of operands and
never look at a restriction, while their expansions are decided through the bounds of
restrictions; the two agree because nothing is said to be full and empty.

Irreflexivity and the range of a data property are not among the shortcuts. The one would be
written out to an empty self restriction, and no self restriction is known to be empty, not even
that of an empty property. The other one agrees with what it would be written out to unless it
contains the datatype of all literals, of which no bound says that it is full.
-/

namespace OntologyModules

/-- The members at two different places of a list, the earlier one first. -/
def pairs {α : Type} : List α → List (α × α)
  | [] => []
  | first :: rest => rest.map (first, ·) ++ pairs rest

/-- What holds of all pairs of a list holds of every two of its places. -/
theorem forall_mem_pairs {α : Type} {operands : List α} {related : α → α → Prop} :
    (∀ pair ∈ pairs operands, related pair.1 pair.2) ↔ operands.Pairwise related := by
  induction operands with
  | nil => exact iff_of_true nofun .nil
  | cons first rest ih =>
    rw [pairs, List.forall_mem_append, List.forall_mem_map, List.pairwise_cons, ih]

namespace Extent

/-- Operands are equivalent when of any two of them each lies within the other: what lies within
something is empty, or the other is full. -/
theorem areEquivalent_iff_pairwise {operands : List Extent}
    (exclusive : ∀ operand ∈ operands, operand.Exclusive) :
    areEquivalent operands = true ↔ operands.Pairwise fun first second =>
      (first.empty = true ∨ second.full = true) ∧ (second.empty = true ∨ first.full = true) := by
  rw [areEquivalent_iff exclusive]
  constructor
  · rintro (few | empty | full)
    · match operands, few with
      | [], _ => exact .nil
      | [single], _ => exact List.pairwise_singleton _ single
    · exact List.pairwise_of_forall_mem_list fun first mem second mem' =>
        ⟨.inl (empty first mem), .inl (empty second mem')⟩
    · exact List.pairwise_of_forall_mem_list fun first mem second mem' =>
        ⟨.inr (full second mem'), .inr (full first mem)⟩
  · intro within
    match operands with
    | [] => exact .inl (Nat.zero_le 1)
    | [single] => exact .inl le_rfl
    | first :: second :: rest =>
      obtain ⟨alone, others⟩ := List.forall_mem_cons.1 exclusive
      obtain ⟨beside, -⟩ := List.pairwise_cons.1 within
      by_cases empty : first.empty = true
      · -- Within an empty operand there is nothing.
        refine .inr (.inl (List.forall_mem_cons.2 ⟨empty, fun other mem => ?_⟩))
        exact (beside other mem).2.resolve_right fun full => alone ⟨full, empty⟩
      · -- The first operand may hold of something, so the second one is full and within it.
        have full (other : Extent) (mem : other ∈ second :: rest) : other.full = true :=
          (beside other mem).1.resolve_left empty
        have notEmpty : ¬second.empty = true := fun none =>
          others second List.mem_cons_self ⟨full second List.mem_cons_self, none⟩
        have whole : first.full = true :=
          (beside second List.mem_cons_self).2.resolve_left notEmpty
        exact .inr (.inr (List.forall_mem_cons.2 ⟨whole, full⟩))

/-- Two operands are equivalent when both are empty or both are full. -/
theorem areEquivalent_pair_iff {first second : Extent} (exclusive : first.Exclusive)
    (exclusive' : second.Exclusive) : areEquivalent [first, second] = true ↔
      first.empty = true ∧ second.empty = true ∨ first.full = true ∧ second.full = true := by
  have both : ∀ operand ∈ [first, second], operand.Exclusive :=
    List.forall_mem_cons.2 ⟨exclusive, List.forall_mem_singleton.2 exclusive'⟩
  have several : ¬[first, second].length ≤ 1 := by simp
  rw [areEquivalent_iff both, or_iff_right several, List.forall_mem_cons,
    List.forall_mem_singleton, List.forall_mem_cons, List.forall_mem_singleton]

/-- A whole is a disjoint union of parts when it is equivalent to their union and the parts are
disjoint. -/
theorem isDisjointUnion_iff_areEquivalent_and_areDisjoint {whole : Extent} {parts : List Extent}
    (alone : whole.Exclusive) (exclusive : ∀ part ∈ parts, part.Exclusive) :
    whole.isDisjointUnion parts = true ↔
      areEquivalent [whole, union parts] = true ∧ areDisjoint parts = true := by
  have empty : (union parts).empty = true ↔ ∀ part ∈ parts, part.empty = true :=
    List.all_eq_true
  have full : (union parts).full = true ↔ ∃ part ∈ parts, part.full = true := List.any_eq_true
  rw [isDisjointUnion_iff alone exclusive,
    areEquivalent_pair_iff alone (exclusive_union exclusive), areDisjoint_iff, empty, full]
  constructor
  · rintro (⟨none, nothing⟩ | ⟨all, single⟩)
    · exact ⟨.inl ⟨none, nothing⟩,
        List.pairwise_of_forall_mem_list fun first mem _ _ => .inl (nothing first mem)⟩
    · exact ⟨.inr ⟨all, single.exists_full⟩, single.pairwise⟩
  · rintro ⟨⟨none, nothing⟩ | ⟨all, part, mem, partFull⟩, disjoint⟩
    · exact .inl ⟨none, nothing⟩
    · -- The full part is not empty, so every other part is.
      have notEmpty : ¬part.empty = true := fun none => exclusive part mem ⟨partFull, none⟩
      obtain ⟨before, after, rfl⟩ := List.append_of_mem mem
      obtain ⟨-, later, earlier⟩ := List.pairwise_append.1 disjoint
      refine .inr ⟨all, before, part, after, rfl, partFull, fun other within => ?_,
        fun other within => ?_⟩
      · exact (earlier other within part List.mem_cons_self).resolve_right notEmpty
      · exact ((List.pairwise_cons.1 later).1 other within).resolve_left notEmpty

end Extent

section

variable {property : Extent} {filler : Bounds}

/-- Nothing is related to anything in the filler when the property is empty or the filler is. -/
theorem Quantifier.empty_existential_or_iff :
    (existential.bounds property filler).extent.empty = true ↔
      property.empty = true ∨ filler.extent.empty = true := by
  have few : filler.upper.toENat < 1 ↔ filler.upper = .atMost 0 := by
    rw [Order.lt_one_iff, UpperBound.toENat_eq_zero]
  rw [Bounds.empty_extent_iff, bounds, Count.bounds, Bounds.ofUpper,
    Count.atLeastUpper_eq_zero_iff, Count.TooFewForAll, Bounds.empty_extent_iff, ← few]
  exact and_iff_right (by decide)

/-- Nothing is related to anything in a filler without a limit only if the property is empty. -/
theorem Quantifier.empty_existential_iff (unlimited : filler.upper = .unbounded) :
    (existential.bounds property filler).extent.empty = true ↔ property.empty = true := by
  rw [empty_existential_or_iff, Bounds.empty_extent_iff, unlimited]
  exact or_iff_left nofun

/-- Everything is related to few things in a filler without a limit only if the property is
empty. -/
theorem Count.full_atMost_iff {number : UInt32} (unlimited : filler.upper = .unbounded) :
    ((atMost number).bounds property filler).extent.full = true ↔ property.empty = true := by
  rw [Count.full_iff]
  simp [SurelyMet, FewEnoughForAll, unlimited, UpperBound.toENat]

/-- Everything is related to the filler only, if to anything, when the property is empty or the
filler is full. -/
theorem Quantifier.full_universal_iff :
    (universal.bounds property filler).extent.full = true ↔
      property.empty = true ∨ filler.extent.full = true := by
  rw [Quantifier.full_iff, SurelyMet, UpperBound.toENat_eq_zero, Bounds.full_extent_iff]

end

/-- The axiom that a characteristic of a property abbreviates. -/
def Characteristic.expansion (property : Property) : Characteristic → Axiom
  | functional => .subClassOf .thing (.objectCount (.atMost 1) property)
  | inverseFunctional => .subClassOf .thing (.objectCount (.atMost 1) (.inverse property))
  | reflexive => .subClassOf .thing (.hasSelf property)
  | irreflexive => .objectProperty .irreflexive property
  | symmetric => .subObjectPropertyOf property (.inverse property)
  | asymmetric => .disjointObjectProperties [property, .inverse property]
  | transitive => .subPropertyChainOf [property, property] property

namespace Axiom

/-- Each operand is said to lie within each operand at another place. -/
def withinEachOther {α : Type} (within : α → α → Axiom) (operands : List α) : List Axiom :=
  (pairs operands).flatMap fun pair => [within pair.1 pair.2, within pair.2 pair.1]

/-- The axioms that an axiom abbreviates; an axiom that is no shortcut stands for itself. -/
def expansion : Axiom → List Axiom
  | equivalentClasses operands => withinEachOther subClassOf operands
  | disjointClasses operands =>
    (pairs operands).map fun pair => subClassOf (.intersection [pair.1, pair.2]) .nothing
  | disjointUnion iri operands =>
    [equivalentClasses [.named iri, .union operands], disjointClasses operands]
  | equivalentObjectProperties operands => withinEachOther subObjectPropertyOf operands
  | equivalentDataProperties operands => withinEachOther subDataPropertyOf operands
  | inverseObjectProperties first second => [equivalentObjectProperties [first, .inverse second]]
  | objectPropertyDomain property domain =>
    [subClassOf (.someValuesFrom property .thing) domain]
  | objectPropertyRange property range => [subClassOf .thing (.allValuesFrom property range)]
  | dataPropertyDomain property domain =>
    [subClassOf (.data .existential property .literal) domain]
  | objectProperty characteristic property => [characteristic.expansion property]
  | functionalDataProperty property => [subClassOf .thing (.dataCount (.atMost 1) property)]
  | ax => [ax]

section

variable {signature : Signature}

/-- It is local that everything lies within what is full. -/
theorem isLocal_thing_subClassOf (super : ClassExpression) :
    (subClassOf .thing super).isLocal signature = (super.extent signature).full := rfl

/-- Operands are equivalent exactly if it is local that each lies within each other one. -/
theorem areEquivalent_iff_withinEachOther {α : Type} {within : α → α → Axiom} {operands : List α}
    {extent : α → Extent} (exclusive : ∀ operand, (extent operand).Exclusive)
    (rule : ∀ sub super, (within sub super).isLocal signature = true ↔
      (extent sub).empty = true ∨ (extent super).full = true) :
    Extent.areEquivalent (operands.map extent) = true ↔
      ∀ part ∈ withinEachOther within operands, part.isLocal signature = true := by
  rw [Extent.areEquivalent_iff_pairwise (List.forall_mem_map.2 fun operand _ => exclusive operand),
    List.pairwise_map, withinEachOther, List.forall_mem_flatMap, ← forall_mem_pairs]
  refine forall₂_congr fun pair _ => ?_
  rw [List.forall_mem_cons, List.forall_mem_singleton, rule, rule]

/-- Classes are disjoint exactly if it is local that any two of them have nothing in common. -/
theorem isLocal_disjointClasses_iff {operands : List ClassExpression} :
    (disjointClasses operands).isLocal signature = true ↔ ∀ pair ∈ pairs operands,
      (subClassOf (.intersection [pair.1, pair.2]) .nothing).isLocal signature = true := by
  rw [isLocal, Extent.areDisjoint_iff, List.pairwise_map, ← forall_mem_pairs]
  refine forall₂_congr fun pair _ => ?_
  simp [isLocal, ClassExpression.extent, ClassExpression.extentAll, Extent.intersection,
    Extent.bottom]

/-- A disjoint union is local exactly if it is that the class is the union of the parts and that
the parts are disjoint. -/
theorem isLocal_disjointUnion_iff {iri : Iri} {operands : List ClassExpression} :
    (disjointUnion iri operands).isLocal signature = true ↔
      (equivalentClasses [.named iri, .union operands]).isLocal signature = true ∧
        (disjointClasses operands).isLocal signature = true := by
  have union : ClassExpression.extent signature (.union operands) =
      .union (operands.map (·.extent signature)) := by
    rw [ClassExpression.extent, ClassExpression.extentAll_eq_map]
  rw [isLocal, isLocal, isLocal, List.map_cons, List.map_cons, List.map_nil, union]
  exact Extent.isDisjointUnion_iff_areEquivalent_and_areDisjoint
    (ClassExpression.exclusive_extent signature _)
    (List.forall_mem_map.2 fun operand _ => operand.exclusive_extent signature)

/-- A property has a characteristic by its extent exactly if the expansion is local. -/
theorem has_iff_isLocal_expansion {characteristic : Characteristic} {property : Property} :
    (property.extent signature).has characteristic = true ↔
      (characteristic.expansion property).isLocal signature = true := by
  have single : (property.extent signature).empty = true ↔
      (ClassExpression.extent signature (.objectCount (.atMost 1) property)).full = true :=
    (Count.full_atMost_iff rfl).symm
  cases characteristic with
  | functional => exact single
  | inverseFunctional => exact single
  | reflexive => exact Iff.rfl
  | irreflexive => exact Iff.rfl
  | symmetric =>
    rw [Extent.has, Characteristic.expansion, isLocal, Property.extent, Bool.or_comm]
  | asymmetric =>
    rw [Extent.has, Characteristic.expansion, isLocal, List.map_cons, List.map_cons, List.map_nil,
      Property.extent, Extent.areDisjoint_iff, List.pairwise_pair, or_self]
  | transitive =>
    have chained : (Property.chainExtent signature [property, property]).empty =
        (property.extent signature).empty := by
      simp [Property.chainExtent, Extent.intersection]
    rw [Extent.has, Characteristic.expansion, isLocal, chained, Bool.or_comm]

end

/-- An axiom is local exactly if all axioms are that it abbreviates. -/
theorem isLocal_iff_expansion (signature : Signature) (ax : Axiom) :
    ax.isLocal signature = true ↔ ∀ part ∈ ax.expansion, part.isLocal signature = true := by
  have implied (sub super : Property) :
      ((super.extent signature).full || (sub.extent signature).empty) = true ↔
        (sub.extent signature).empty = true ∨ (super.extent signature).full = true := by
    rw [Bool.or_eq_true, or_comm]
  have started {source : ClassExpression} {property : Property} (domain : ClassExpression)
      (known : (source.extent signature).empty = true ↔
        (property.extent signature).empty = true) :
      ((domain.extent signature).full || (property.extent signature).empty) = true ↔
        ((source.extent signature).empty || (domain.extent signature).full) = true := by
    rw [Bool.or_eq_true, Bool.or_eq_true, known, or_comm]
  have exclusive (property : Property) := property.exclusive_extent signature
  cases ax with
  | equivalentClasses operands =>
    exact areEquivalent_iff_withinEachOther (fun operand => operand.exclusive_extent signature)
      fun sub super => Bool.or_eq_true_iff
  | disjointClasses operands =>
    rw [expansion, List.forall_mem_map]
    exact isLocal_disjointClasses_iff
  | disjointUnion iri operands =>
    rw [expansion, List.forall_mem_cons, List.forall_mem_singleton]
    exact isLocal_disjointUnion_iff
  | equivalentObjectProperties operands =>
    exact areEquivalent_iff_withinEachOther exclusive implied
  | equivalentDataProperties operands =>
    exact areEquivalent_iff_withinEachOther exclusive implied
  | inverseObjectProperties first second =>
    rw [expansion, List.forall_mem_singleton, isLocal, isLocal, List.map_cons, List.map_cons,
      List.map_nil, Property.extent, Bool.or_eq_true, Bool.and_eq_true, Bool.and_eq_true,
      Extent.areEquivalent_pair_iff (exclusive first) (exclusive second)]
  | objectPropertyDomain property domain =>
    rw [expansion, List.forall_mem_singleton, isLocal, isLocal]
    exact started domain (Quantifier.empty_existential_iff rfl)
  | objectPropertyRange property range =>
    rw [expansion, List.forall_mem_singleton, isLocal_thing_subClassOf, isLocal, Bool.or_eq_true,
      or_comm, ← range.extent_bounds]
    exact Quantifier.full_universal_iff.symm
  | dataPropertyDomain property domain =>
    rw [expansion, List.forall_mem_singleton, isLocal, isLocal]
    exact started domain (Quantifier.empty_existential_iff rfl)
  | objectProperty characteristic property =>
    rw [expansion, List.forall_mem_singleton]
    exact has_iff_isLocal_expansion
  | functionalDataProperty property =>
    rw [expansion, List.forall_mem_singleton, isLocal_thing_subClassOf, isLocal]
    exact (Count.full_atMost_iff rfl).symm
  | _ =>
    -- Every other axiom stands for itself.
    simp [expansion]

/-- What irreflexivity would be written out to is never local, not even for an empty property. -/
theorem isLocal_hasSelf_subClassOf_nothing (signature : Signature) (property : Property) :
    (subClassOf (.hasSelf property) .nothing).isLocal signature = false := rfl

end Axiom

end OntologyModules
