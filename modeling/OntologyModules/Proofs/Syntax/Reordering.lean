import Mathlib.Data.List.Forall2
import OntologyModules.Axiom
import OntologyModules.Proofs.Syntax.Induction

/-!
# Expressions in another order

Two expressions, or two axioms, are reorderings of each other when they differ only in the order
of operands and of listed members, at any depth at once: the operands of a connective may be
permuted, and then each of them reordered. The links of a chain and the properties of a key keep
their places. The eliminators have one case for each way to reorder, with the hypothesis at all
operands.
-/

namespace OntologyModules

/-- The list is permuted, and then its members are changed one by one. -/
def Permuted {ι : Type} (related : ι → ι → Prop) (operands changed : List ι) : Prop :=
  ∃ permuted, operands.Perm permuted ∧ List.Forall₂ related permuted changed

namespace Permuted

variable {ι : Type} {related : ι → ι → Prop} {operands changed : List ι}

/-- Operands that are related in one way, and therefore in another one, are so after the same
permutation. -/
theorem imp {related' : ι → ι → Prop} (permuted : Permuted related operands changed)
    (implies : ∀ operand ∈ operands, ∀ other, related operand other → related' operand other) :
    Permuted related' operands changed := by
  obtain ⟨between, order, members⟩ := permuted
  refine ⟨between, order, ?_⟩
  have known := (List.forall₂_and_left _ _).2 ⟨fun operand mem => order.mem_iff.2 mem, members⟩
  exact known.imp fun operand other both => implies operand both.1 other both.2

/-- What is the same for related operands is permuted. -/
theorem map_perm {β : Type} {f : ι → β}
    (permuted : Permuted (fun operand other => f operand = f other) operands changed) :
    (operands.map f).Perm (changed.map f) := by
  obtain ⟨between, order, members⟩ := permuted
  have same : between.map f = changed.map f := by
    rwa [← List.forall₂_eq_eq_eq, List.forall₂_map_left_iff, List.forall₂_map_right_iff]
  rw [← same]
  exact order.map f

end Permuted

/-- The data ranges differ in the order of operands and members only. -/
inductive DataRange.Reordered : DataRange → DataRange → Prop
  /-- Nothing is reordered. -/
  | refl (range : DataRange) : Reordered range range
  /-- The complemented range is reordered. -/
  | complement {range range' : DataRange} (operand : Reordered range range') :
    Reordered (.complement range) (.complement range')
  /-- The operands of an intersection are permuted and reordered. -/
  | intersection {operands permuted operands' : List DataRange} (order : operands.Perm permuted)
    (members : List.Forall₂ Reordered permuted operands') :
    Reordered (.intersection operands) (.intersection operands')
  /-- The operands of a union are permuted and reordered. -/
  | union {operands permuted operands' : List DataRange} (order : operands.Perm permuted)
    (members : List.Forall₂ Reordered permuted operands') :
    Reordered (.union operands) (.union operands')
  /-- The listed constants are permuted. -/
  | oneOf {members members' : List Literal} (order : members.Perm members') :
    Reordered (.oneOf members) (.oneOf members')

/-- Induction over reordered data ranges, with the hypothesis at all operands of a connective. -/
@[elab_as_elim]
theorem DataRange.Reordered.induction {motive : DataRange → DataRange → Prop}
    (refl : ∀ range, motive range range)
    (complement : ∀ {range range'}, motive range range' →
      motive (.complement range) (.complement range'))
    (intersection : ∀ {operands operands'}, Permuted motive operands operands' →
      motive (.intersection operands) (.intersection operands'))
    (union : ∀ {operands operands'}, Permuted motive operands operands' →
      motive (.union operands) (.union operands'))
    (oneOf : ∀ {members members'}, members.Perm members' →
      motive (.oneOf members) (.oneOf members'))
    {range range' : DataRange} (reordered : range.Reordered range') : motive range range' := by
  have step {operands permuted operands' : List DataRange}
      (ih : ∀ operand ∈ operands, ∀ {other}, operand.Reordered other → motive operand other)
      (order : operands.Perm permuted)
      (members : List.Forall₂ DataRange.Reordered permuted operands') :
      Permuted motive operands operands' :=
    Permuted.imp ⟨permuted, order, members⟩ fun operand mem _ => ih operand mem
  induction range generalizing range' with
  | datatype iri =>
    cases reordered
    exact refl _
  | complement range ih =>
    cases reordered with
    | refl => exact refl _
    | complement operand => exact complement (ih operand)
  | intersection operands ih =>
    cases reordered with
    | refl => exact refl _
    | intersection order members => exact intersection (step ih order members)
  | union operands ih =>
    cases reordered with
    | refl => exact refl _
    | union order members => exact union (step ih order members)
  | oneOf members =>
    cases reordered with
    | refl => exact refl _
    | oneOf order => exact oneOf order
  | restriction iri facets =>
    cases reordered
    exact refl _

/-- The class expressions differ in the order of operands and members only. -/
inductive ClassExpression.Reordered : ClassExpression → ClassExpression → Prop
  /-- Nothing is reordered. -/
  | refl (expression : ClassExpression) : Reordered expression expression
  /-- The complemented class is reordered. -/
  | complement {expression expression' : ClassExpression}
    (operand : Reordered expression expression') :
    Reordered (.complement expression) (.complement expression')
  /-- The operands of an intersection are permuted and reordered. -/
  | intersection {operands permuted operands' : List ClassExpression}
    (order : operands.Perm permuted) (members : List.Forall₂ Reordered permuted operands') :
    Reordered (.intersection operands) (.intersection operands')
  /-- The operands of a union are permuted and reordered. -/
  | union {operands permuted operands' : List ClassExpression}
    (order : operands.Perm permuted) (members : List.Forall₂ Reordered permuted operands') :
    Reordered (.union operands) (.union operands')
  /-- The listed individuals are permuted. -/
  | oneOf {members members' : List Individual} (order : members.Perm members') :
    Reordered (.oneOf members) (.oneOf members')
  /-- The filler of a restriction on individuals is reordered. -/
  | object (quantifier : Quantifier) (property : Property) {filler filler' : ClassExpression}
    (operand : Reordered filler filler') :
    Reordered (.object quantifier property filler) (.object quantifier property filler')
  /-- The filler of a restriction on values is reordered. -/
  | data (quantifier : Quantifier) (property : Property) {filler filler' : DataRange}
    (operand : filler.Reordered filler') :
    Reordered (.data quantifier property filler) (.data quantifier property filler')

/-- Induction over reordered class expressions, with the hypothesis at all operands of a
connective and at the filler of a restriction on individuals. -/
@[elab_as_elim]
theorem ClassExpression.Reordered.induction {motive : ClassExpression → ClassExpression → Prop}
    (refl : ∀ expression, motive expression expression)
    (complement : ∀ {expression expression'}, motive expression expression' →
      motive (.complement expression) (.complement expression'))
    (intersection : ∀ {operands operands'}, Permuted motive operands operands' →
      motive (.intersection operands) (.intersection operands'))
    (union : ∀ {operands operands'}, Permuted motive operands operands' →
      motive (.union operands) (.union operands'))
    (oneOf : ∀ {members members'}, members.Perm members' →
      motive (.oneOf members) (.oneOf members'))
    (object : ∀ quantifier property {filler filler'}, motive filler filler' →
      motive (.object quantifier property filler) (.object quantifier property filler'))
    (data : ∀ quantifier property {filler filler'}, filler.Reordered filler' →
      motive (.data quantifier property filler) (.data quantifier property filler'))
    {expression expression' : ClassExpression} (reordered : expression.Reordered expression') :
    motive expression expression' := by
  have step {operands permuted operands' : List ClassExpression}
      (ih : ∀ operand ∈ operands, ∀ {other}, operand.Reordered other → motive operand other)
      (order : operands.Perm permuted)
      (members : List.Forall₂ ClassExpression.Reordered permuted operands') :
      Permuted motive operands operands' :=
    Permuted.imp ⟨permuted, order, members⟩ fun operand mem _ => ih operand mem
  induction expression generalizing expression' with
  | complement operand ih =>
    cases reordered with
    | refl => exact refl _
    | complement operand => exact complement (ih operand)
  | intersection operands ih =>
    cases reordered with
    | refl => exact refl _
    | intersection order members => exact intersection (step ih order members)
  | union operands ih =>
    cases reordered with
    | refl => exact refl _
    | union order members => exact union (step ih order members)
  | oneOf members =>
    cases reordered with
    | refl => exact refl _
    | oneOf order => exact oneOf order
  | object quantifier property filler ih =>
    cases reordered with
    | refl => exact refl _
    | object _ _ operand => exact object quantifier property (ih operand)
  | data quantifier property filler =>
    cases reordered with
    | refl => exact refl _
    | data _ _ operand => exact data quantifier property operand
  | _ =>
    -- In all other expressions there is nothing to reorder.
    cases reordered
    exact refl _

/-- The axioms differ in the order of operands and members only. -/
inductive Axiom.Reordered : Axiom → Axiom → Prop
  /-- Nothing is reordered. -/
  | refl (ax : Axiom) : Reordered ax ax
  /-- Both classes are reordered. -/
  | subClassOf {sub sub' super super' : ClassExpression} (smaller : sub.Reordered sub')
    (larger : super.Reordered super') :
    Reordered (.subClassOf sub super) (.subClassOf sub' super')
  /-- The equivalent classes are permuted and reordered. -/
  | equivalentClasses {operands operands' : List ClassExpression}
    (permuted : Permuted ClassExpression.Reordered operands operands') :
    Reordered (.equivalentClasses operands) (.equivalentClasses operands')
  /-- The disjoint classes are permuted and reordered. -/
  | disjointClasses {operands operands' : List ClassExpression}
    (permuted : Permuted ClassExpression.Reordered operands operands') :
    Reordered (.disjointClasses operands) (.disjointClasses operands')
  /-- The parts of a disjoint union are permuted and reordered. -/
  | disjointUnion (iri : Iri) {operands operands' : List ClassExpression}
    (permuted : Permuted ClassExpression.Reordered operands operands') :
    Reordered (.disjointUnion iri operands) (.disjointUnion iri operands')
  /-- The equivalent object properties are permuted. -/
  | equivalentObjectProperties {operands operands' : List Property}
    (order : operands.Perm operands') :
    Reordered (.equivalentObjectProperties operands) (.equivalentObjectProperties operands')
  /-- The disjoint object properties are permuted. -/
  | disjointObjectProperties {operands operands' : List Property}
    (order : operands.Perm operands') :
    Reordered (.disjointObjectProperties operands) (.disjointObjectProperties operands')
  /-- The equivalent data properties are permuted. -/
  | equivalentDataProperties {operands operands' : List Property}
    (order : operands.Perm operands') :
    Reordered (.equivalentDataProperties operands) (.equivalentDataProperties operands')
  /-- The disjoint data properties are permuted. -/
  | disjointDataProperties {operands operands' : List Property}
    (order : operands.Perm operands') :
    Reordered (.disjointDataProperties operands) (.disjointDataProperties operands')
  /-- The domain of an object property is reordered. -/
  | objectPropertyDomain (property : Property) {domain domain' : ClassExpression}
    (operand : domain.Reordered domain') :
    Reordered (.objectPropertyDomain property domain) (.objectPropertyDomain property domain')
  /-- The range of an object property is reordered. -/
  | objectPropertyRange (property : Property) {range range' : ClassExpression}
    (operand : range.Reordered range') :
    Reordered (.objectPropertyRange property range) (.objectPropertyRange property range')
  /-- The domain of a data property is reordered. -/
  | dataPropertyDomain (property : Property) {domain domain' : ClassExpression}
    (operand : domain.Reordered domain') :
    Reordered (.dataPropertyDomain property domain) (.dataPropertyDomain property domain')
  /-- The range of a data property is reordered. -/
  | dataPropertyRange (property : Property) {range range' : DataRange}
    (operand : range.Reordered range') :
    Reordered (.dataPropertyRange property range) (.dataPropertyRange property range')
  /-- The definition of a datatype is reordered. -/
  | datatypeDefinition (iri : Iri) {range range' : DataRange}
    (operand : range.Reordered range') :
    Reordered (.datatypeDefinition iri range) (.datatypeDefinition iri range')
  /-- The class that has a key is reordered. -/
  | hasKey {subject subject' : ClassExpression} (properties : List Property)
    (operand : subject.Reordered subject') :
    Reordered (.hasKey subject properties) (.hasKey subject' properties)
  /-- The class of an individual is reordered. -/
  | classAssertion {expression expression' : ClassExpression} (individual : Individual)
    (operand : expression.Reordered expression') :
    Reordered (.classAssertion expression individual) (.classAssertion expression' individual)

end OntologyModules
