import OntologyModules.Locality
import OntologyModules.Proofs.Locality.Consistency
import OntologyModules.Proofs.Locality.Rules
import OntologyModules.Proofs.Syntax.Reordering

/-!
# The order of operands

Whatever is computed from a list of operands is the same for every order of the list: the least
and the greatest of bounds, sums of bounds, the number of different members, and, as long as
nothing saturates, the lower bound of an intersection, although the pass over the operands keeps
the first of equally good ones. The rules that branch on the first operand do not depend on it
either, since no operand is said to be both full and empty. By induction over reordered
expressions neither bounds nor extents nor locality depend on any order
(`Signature.reordering_irrelevant`).
-/

namespace OntologyModules

/-- The number of different members does not depend on their order. -/
theorem distinctCount_perm {α : Type} [DecidableEq α] {members members' : List α}
    (perm : members.Perm members') : distinctCount members = distinctCount members' := by
  have kept : (distinctMembers members).Perm (distinctMembers members') := by
    rw [List.perm_ext_iff_of_nodup (nodup_distinctMembers members)
      (nodup_distinctMembers members')]
    intro member
    rw [mem_distinctMembers, mem_distinctMembers, perm.mem_iff]
  rw [distinctCount, kept.length_eq, distinctCount]

namespace Bounds

variable {operands operands' : List Bounds}

/-- The bounds of an intersection of fitting operands do not depend on their order. -/
theorem intersection_perm (fit : Fit operands) (perm : operands.Perm operands') :
    intersection operands = intersection operands' := by
  rw [intersection, intersection, mk.injEq]
  exact ⟨UpperBound.leastOf_perm (perm.map _), UpperBound.sumAll_perm (perm.map _),
    fit.unsaturated.ofIntersection_perm (perm.map _), LowerBound.greatestOf_perm (perm.map _)⟩

/-- The bounds of a union of fitting operands do not depend on their order. -/
theorem union_perm (fit : Fit operands) (perm : operands.Perm operands') :
    union operands = union operands' := by
  rw [union_eq_complement, union_eq_complement,
    intersection_perm fit.complement (perm.map complement)]

end Bounds

namespace Extent

variable {operands operands' : List Extent}

/-- What is known of an intersection does not depend on the order of its operands. -/
theorem intersection_perm (perm : operands.Perm operands') :
    intersection operands = intersection operands' := by
  rw [intersection, intersection, perm.all_eq, perm.any_eq]

/-- What is known of a union does not depend on the order of its operands. -/
theorem union_perm (perm : operands.Perm operands') : union operands = union operands' := by
  rw [union, union, perm.all_eq, perm.any_eq]

/-- Operands are equivalent in every order. -/
theorem areEquivalent_perm (exclusive : ∀ operand ∈ operands, operand.Exclusive)
    (perm : operands.Perm operands') : areEquivalent operands = areEquivalent operands' := by
  have exclusive' : ∀ operand ∈ operands', operand.Exclusive := fun operand mem =>
    exclusive operand (perm.mem_iff.2 mem)
  rw [Bool.eq_iff_iff, areEquivalent_iff exclusive, areEquivalent_iff exclusive', perm.length_eq]
  simp only [perm.mem_iff]

/-- Operands are disjoint in every order. -/
theorem areDisjoint_perm (perm : operands.Perm operands') :
    areDisjoint operands = areDisjoint operands' := by
  rw [areDisjoint, areDisjoint, (perm.filter _).length_eq]

/-- The full part is the only one wherever it stands. -/
theorem HasSingleFullPart.perm (single : HasSingleFullPart operands)
    (perm : operands.Perm operands') : HasSingleFullPart operands' := by
  obtain ⟨before, part, after, rfl, full, earlier, later⟩ := single
  have mem : part ∈ operands' := perm.mem_iff.1 (List.mem_append_right before List.mem_cons_self)
  obtain ⟨before', after', rfl⟩ := List.append_of_mem mem
  have others : (before ++ after).Perm (before' ++ after') :=
    (List.perm_middle.symm.trans (perm.trans List.perm_middle)).cons_inv
  have empty : ∀ other ∈ before' ++ after', other.empty = true := fun other within =>
    List.forall_mem_append.2 ⟨earlier, later⟩ other (others.mem_iff.2 within)
  obtain ⟨earlier', later'⟩ := List.forall_mem_append.1 empty
  exact ⟨before', part, after', rfl, full, earlier', later'⟩

/-- A whole is the disjoint union of its parts in every order. -/
theorem isDisjointUnion_perm {whole : Extent} (alone : whole.Exclusive)
    (exclusive : ∀ part ∈ operands, part.Exclusive) (perm : operands.Perm operands') :
    whole.isDisjointUnion operands = whole.isDisjointUnion operands' := by
  have exclusive' : ∀ part ∈ operands', part.Exclusive := fun part mem =>
    exclusive part (perm.mem_iff.2 mem)
  have single : HasSingleFullPart operands ↔ HasSingleFullPart operands' :=
    ⟨fun single => single.perm perm, fun single => single.perm perm.symm⟩
  rw [Bool.eq_iff_iff, isDisjointUnion_iff alone exclusive, isDisjointUnion_iff alone exclusive',
    single]
  simp only [perm.mem_iff]

end Extent

namespace DataRange.Reordered

variable {range range' : DataRange}

/-- A reordered data range that lists few members has the same bounds. -/
theorem bounds_eq (reordered : range.Reordered range')
    (small : range.memberCount < Saturating.greatest) : range.bounds = range'.bounds := by
  have listed {operands operands' : List DataRange}
      (permuted : Permuted (fun range range' => range.memberCount < Saturating.greatest →
        range.bounds = range'.bounds) operands operands')
      (small : memberCountAll operands < Saturating.greatest) :
      (operands.map bounds).Perm (operands'.map bounds) := by
    refine (permuted.imp fun operand mem other same => ?_).map_perm
    exact same ((memberCount_le_of_mem mem).trans_lt small)
  refine reordered.induction ?refl ?complement ?intersection ?union ?oneOf small
  case refl => exact fun range _ => rfl
  case complement =>
    intro range range' same small
    rw [bounds, bounds, same small]
  case intersection =>
    intro operands operands' permuted small
    rw [bounds, bounds, boundsAll_eq_map, boundsAll_eq_map]
    exact Bounds.intersection_perm (fit_bounds small) (listed permuted small)
  case union =>
    intro operands operands' permuted small
    rw [bounds, bounds, boundsAll_eq_map, boundsAll_eq_map]
    exact Bounds.union_perm (fit_bounds small) (listed permuted small)
  case oneOf =>
    intro members members' order _
    rw [bounds, bounds, distinctCount_perm order]

/-- A reordered data range is full or empty where the data range is. -/
theorem extent_eq (reordered : range.Reordered range') : range.extent = range'.extent := by
  refine reordered.induction ?refl ?complement ?intersection ?union ?oneOf
  case refl => exact fun range => rfl
  case complement =>
    intro range range' same
    rw [extent, extent, same]
  case intersection =>
    intro operands operands' permuted
    rw [extent, extent, extentAll_eq_map, extentAll_eq_map]
    exact Extent.intersection_perm permuted.map_perm
  case union =>
    intro operands operands' permuted
    rw [extent, extent, extentAll_eq_map, extentAll_eq_map]
    exact Extent.union_perm permuted.map_perm
  case oneOf =>
    intro members members' order
    rw [extent, extent, order.isEmpty_eq]

end DataRange.Reordered

namespace ClassExpression

variable (signature : Signature)

/-- A reordered class expression that lists few members has the same bounds. -/
theorem Reordered.bounds_eq {expression expression' : ClassExpression}
    (reordered : expression.Reordered expression')
    (small : expression.memberCount < Saturating.greatest) :
    expression.bounds signature = expression'.bounds signature := by
  have listed {operands operands' : List ClassExpression}
      (permuted : Permuted (fun operand other => operand.memberCount < Saturating.greatest →
        operand.bounds signature = other.bounds signature) operands operands')
      (small : memberCountAll operands < Saturating.greatest) :
      (operands.map (bounds signature)).Perm (operands'.map (bounds signature)) := by
    refine (permuted.imp fun operand mem other same => ?_).map_perm
    exact same ((memberCount_le_of_mem mem).trans_lt small)
  refine reordered.induction ?refl ?complement ?intersection ?union ?oneOf ?object ?data small
  case refl => exact fun expression _ => rfl
  case complement =>
    intro expression expression' same small
    rw [bounds, bounds, same small]
  case intersection =>
    intro operands operands' permuted small
    rw [bounds, bounds, boundsAll_eq_map, boundsAll_eq_map]
    exact Bounds.intersection_perm (fit_bounds signature small) (listed permuted small)
  case union =>
    intro operands operands' permuted small
    rw [bounds, bounds, boundsAll_eq_map, boundsAll_eq_map]
    exact Bounds.union_perm (fit_bounds signature small) (listed permuted small)
  case oneOf =>
    intro members members' order _
    rw [bounds, bounds, distinctCount_perm order]
  case object =>
    intro quantifier property filler filler' same small
    rw [bounds, bounds, same small]
  case data =>
    intro quantifier property filler filler' operand small
    rw [bounds, bounds, operand.bounds_eq small]

/-- A reordered class expression that lists few members is full or empty where the class
expression is. -/
theorem Reordered.extent_eq {expression expression' : ClassExpression}
    (reordered : expression.Reordered expression')
    (small : expression.memberCount < Saturating.greatest) :
    expression.extent signature = expression'.extent signature := by
  rw [← extent_bounds, ← extent_bounds, reordered.bounds_eq signature small]

/-- The extents of permuted and reordered class expressions are permuted. -/
theorem perm_extents {operands operands' : List ClassExpression}
    (permuted : Permuted Reordered operands operands')
    (small : memberCountAll operands < Saturating.greatest) :
    (operands.map (extent signature)).Perm (operands'.map (extent signature)) := by
  refine (permuted.imp fun operand mem other reordered => ?_).map_perm
  exact reordered.extent_eq signature ((memberCount_le_of_mem mem).trans_lt small)

/-- No listed class expression is said to hold of everything and of nothing. -/
theorem exclusive_extents (operands : List ClassExpression) :
    ∀ known ∈ operands.map (extent signature), known.Exclusive :=
  List.forall_mem_map.2 fun operand _ => operand.exclusive_extent signature

end ClassExpression

/-- A reordered axiom that lists few members is local where the axiom is. -/
theorem Axiom.Reordered.isLocal_eq (signature : Signature) {ax ax' : Axiom}
    (reordered : ax.Reordered ax') (small : ax.memberCount < Saturating.greatest) :
    ax.isLocal signature = ax'.isLocal signature := by
  have exclusive (operands : List Property) :
      ∀ extent ∈ operands.map (·.extent signature), extent.Exclusive :=
    List.forall_mem_map.2 fun property _ => property.exclusive_extent signature
  cases reordered with
  | refl => rfl
  | subClassOf smaller larger =>
    rw [memberCount] at small
    rw [isLocal, isLocal, smaller.extent_eq signature (by omega),
      larger.extent_eq signature (by omega)]
  | equivalentClasses permuted =>
    exact Extent.areEquivalent_perm (ClassExpression.exclusive_extents signature _)
      (ClassExpression.perm_extents signature permuted small)
  | disjointClasses permuted =>
    exact Extent.areDisjoint_perm (ClassExpression.perm_extents signature permuted small)
  | disjointUnion iri permuted =>
    exact Extent.isDisjointUnion_perm (ClassExpression.exclusive_extent signature _)
      (ClassExpression.exclusive_extents signature _)
      (ClassExpression.perm_extents signature permuted small)
  | equivalentObjectProperties order =>
    exact Extent.areEquivalent_perm (exclusive _) (order.map _)
  | disjointObjectProperties order => exact Extent.areDisjoint_perm (order.map _)
  | equivalentDataProperties order =>
    exact Extent.areEquivalent_perm (exclusive _) (order.map _)
  | disjointDataProperties order => exact Extent.areDisjoint_perm (order.map _)
  | objectPropertyDomain property operand =>
    rw [isLocal, isLocal, operand.extent_eq signature small]
  | objectPropertyRange property operand =>
    rw [isLocal, isLocal, operand.extent_eq signature small]
  | dataPropertyDomain property operand =>
    rw [isLocal, isLocal, operand.extent_eq signature small]
  | dataPropertyRange property operand => rw [isLocal, isLocal, operand.extent_eq]
  | datatypeDefinition iri operand => rfl
  | hasKey properties operand => rfl
  | classAssertion individual operand => rw [isLocal, isLocal, operand.extent_eq signature small]

namespace Signature

/-- The order of operands and of listed members, at any depth, changes neither the bounds nor the
extent of an expression, nor whether an axiom is local, as long as it lists fewer members than the
greatest count. -/
theorem reordering_irrelevant (signature : Signature) :
    (∀ range range' : DataRange, range.Reordered range' →
      range.memberCount < Saturating.greatest →
        range.bounds = range'.bounds ∧ range.extent = range'.extent) ∧
    (∀ expression expression' : ClassExpression, expression.Reordered expression' →
      expression.memberCount < Saturating.greatest →
        expression.bounds signature = expression'.bounds signature ∧
        expression.extent signature = expression'.extent signature) ∧
    ∀ ax ax' : Axiom, ax.Reordered ax' → ax.memberCount < Saturating.greatest →
      ax.isLocal signature = ax'.isLocal signature :=
  ⟨fun _ _ reordered small => ⟨reordered.bounds_eq small, reordered.extent_eq⟩,
    fun _ _ reordered small =>
      ⟨reordered.bounds_eq signature small, reordered.extent_eq signature small⟩,
    fun _ _ reordered small => reordered.isLocal_eq signature small⟩

/-- The parts of a disjoint union may be listed the other way round, together with what is
intersected and enumerated within them and within their data ranges. -/
theorem reordering_irrelevant_within_parts :
    DataRange.bounds (.union [.oneOf [.ofString "x", .ofString "y"], .literal]) =
      DataRange.bounds (.union [.literal, .oneOf [.ofString "y", .ofString "x"]]) ∧
    (ClassExpression.intersection [.oneOf ["a", "b"], .named "B"]).bounds (.ofFlavour .top) =
      (ClassExpression.intersection [.named "B", .oneOf ["b", "a"]]).bounds (.ofFlavour .top) ∧
    (Axiom.disjointUnion "A" [.data .existential (.data "p")
          (.union [.oneOf [.ofString "x", .ofString "y"], .literal]),
        .intersection [.oneOf ["a", "b"], .nothing]]).isLocal (.ofFlavour .top) =
      (Axiom.disjointUnion "A" [.intersection [.nothing, .oneOf ["b", "a"]],
        .data .existential (.data "p")
          (.union [.literal, .oneOf [.ofString "y", .ofString "x"]])]).isLocal
        (.ofFlavour .top) := by
  obtain ⟨ranges, classes, axioms⟩ := reordering_irrelevant (.ofFlavour .top)
  have range : DataRange.Reordered (.union [.oneOf [.ofString "x", .ofString "y"], .literal])
      (.union [.literal, .oneOf [.ofString "y", .ofString "x"]]) :=
    .union (.swap _ _ _) (.cons (.refl _) (.cons (.oneOf (.swap _ _ _)) .nil))
  have within (expression : ClassExpression) :
      ClassExpression.Reordered (.intersection [.oneOf ["a", "b"], expression])
        (.intersection [expression, .oneOf ["b", "a"]]) :=
    .intersection (.swap _ _ _) (.cons (.refl _) (.cons (.oneOf (.swap _ _ _)) .nil))
  refine ⟨(ranges _ _ range (by decide)).1, (classes _ _ (within _) (by decide)).1,
    axioms _ _ (.disjointUnion "A" ⟨_, .swap _ _ _, ?_⟩) (by decide)⟩
  exact .cons (within .nothing) (.cons (.data .existential _ range) .nil)

end Signature

end OntologyModules
