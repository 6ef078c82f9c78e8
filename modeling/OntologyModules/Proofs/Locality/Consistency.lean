import OntologyModules.Proofs.Locality.Restriction
import OntologyModules.Proofs.Syntax.Induction
import OntologyModules.Proofs.Syntax.MemberCount

/-!
# What the rules make sure of

Whatever the expression and whatever the signature, the four bounds that the rules compute are
consistent (`ClassExpression.consistent_bounds`), the upper bounds among them are accounted for
by the members that the expression lists (`ClassExpression.within_bounds`), and what is said of
a class expression to be full or empty is what its bounds say (`ClassExpression.extent_bounds`).
Operands that list few enough members together can therefore be summed up without saturating.
The bounds of names, of properties and of chains are those of their extents.
-/

namespace OntologyModules

namespace Entity

variable (signature : Signature) (entity : Entity)

/-- No name is said to hold of everything and of nothing. -/
theorem exclusive_extent : (entity.extent signature).Exclusive := by
  have builtIn := entity.not_isTop_and_isBottom
  unfold Extent.Exclusive extent Signature.readsTop Signature.readsBottom
  cases top : entity.isTop <;> cases bottom : entity.isBottom <;> simp_all

/-- The bounds of a name are those of its extent. -/
theorem bounds_eq_ofExtent : entity.bounds signature = .ofExtent (entity.extent signature) := by
  have builtIn := entity.not_isTop_and_isBottom
  unfold bounds extent
  cases top : entity.isTop with
  | true =>
    have notBottom : entity.isBottom = false := by
      rw [Bool.eq_false_iff]
      exact fun bottom => builtIn ⟨top, bottom⟩
    rw [notBottom]
    rfl
  | false =>
    cases entity.isBottom with
    | true => rfl
    | false =>
      simp only [Bool.false_eq_true, if_false, Bool.false_or, Bool.not_false, Bool.true_and,
        Bounds.ofExtent, Bounds.ofUpper]
      cases signature.readsTop entity <;> cases signature.readsBottom entity <;> rfl

end Entity

namespace Property

variable (signature : Signature)

/-- No property is said to hold of everything and of nothing. -/
theorem exclusive_extent (property : Property) : (property.extent signature).Exclusive := by
  rw [extent_eq_named]
  exact Entity.exclusive_extent signature property.named

/-- The bounds of a property are those of its extent. -/
theorem bounds_eq_ofExtent (property : Property) :
    property.bounds signature = .ofExtent (property.extent signature) := by
  induction property with
  | object iri => exact Entity.bounds_eq_ofExtent signature _
  | data iri => exact Entity.bounds_eq_ofExtent signature _
  | inverse property ih =>
    rw [bounds, extent]
    exact ih

/-- The bounds of a chain are those of its extent. -/
theorem chainBounds_eq_ofExtent (chain : List Property) :
    chainBounds signature chain = .ofExtent (chainExtent signature chain) := by
  unfold chainBounds chainExtent Extent.intersection
  rw [List.all_map, List.any_map]
  cases every : chain.all (·.extent signature |>.full) <;>
    cases some : chain.any (·.extent signature |>.empty) <;>
    simp_all [Bounds.ofExtent, Bounds.ofUpper, Function.comp_def, UpperBound.lift]

/-- The bounds of a value restriction are those of what is full when the property is. -/
theorem valueBounds_eq_ofExtent (property : Extent) :
    valueBounds property = .ofExtent ⟨property.full, false⟩ := by
  unfold valueBounds
  cases property.full <;> rfl

end Property

namespace DataRange

/-- The bounds of a data range are consistent. -/
theorem consistent_bounds (range : DataRange) : range.bounds.Consistent := by
  induction range with
  | datatype iri => exact Bounds.consistent_datatypeBounds _
  | complement range ih => exact ih.complement
  | intersection operands ih =>
    rw [bounds, boundsAll_eq_map]
    exact Bounds.consistent_intersection (List.forall_mem_map.2 ih)
  | union operands ih =>
    rw [bounds, boundsAll_eq_map]
    exact Bounds.consistent_union (List.forall_mem_map.2 ih)
  | oneOf members => exact Bounds.consistent_ofMembers _
  | restriction iri facets =>
    exact Bounds.consistent_ofExtent (show Extent.unknown.Exclusive by decide)

/-- The members of a data range account for its upper bounds. -/
theorem within_bounds (range : DataRange) : range.bounds.Within range.memberCount := by
  induction range with
  | datatype iri => exact Bounds.within_datatypeBounds _ _
  | complement range ih => exact ih.complement
  | intersection operands ih =>
    rw [bounds, boundsAll_eq_map, memberCount, memberCountAll_eq_sum]
    exact Bounds.within_intersection ih
  | union operands ih =>
    rw [bounds, boundsAll_eq_map, memberCount, memberCountAll_eq_sum]
    exact Bounds.within_union ih
  | oneOf members => exact Bounds.within_ofMembers members
  | restriction iri facets => exact Bounds.within_ofExtent .unknown _

/-- The bounds of data ranges that list few members together can be summed up. -/
theorem fit_bounds {operands : List DataRange}
    (small : memberCountAll operands < Saturating.greatest) : Bounds.Fit (operands.map bounds) := by
  rw [memberCountAll_eq_sum] at small
  exact Bounds.Fit.of_within (fun operand _ => operand.consistent_bounds)
    (fun operand _ => operand.within_bounds) small

end DataRange

namespace ClassExpression

variable (signature : Signature)

/-- The bounds of a class expression are consistent. -/
theorem consistent_bounds (expression : ClassExpression) :
    (expression.bounds signature).Consistent := by
  have counted (count : Count) (property : Property) {filler : Bounds}
      (consistent : filler.Consistent) :
      (count.bounds (property.extent signature) filler).Consistent :=
    show ((Quantifier.count count).bounds (property.extent signature) filler).Consistent from
      Quantifier.consistent_bounds (property.exclusive_extent signature) consistent
  have valued (property : Property) :
      (Property.valueBounds (property.extent signature)).Consistent := by
    rw [Property.valueBounds_eq_ofExtent]
    exact Bounds.consistent_ofExtent fun both => absurd both.2 Bool.false_ne_true
  induction expression with
  | named iri =>
    rw [bounds, Entity.bounds_eq_ofExtent]
    exact Bounds.consistent_ofExtent (Entity.exclusive_extent signature _)
  | thing => exact Bounds.consistent_ofExtent (show Extent.top.Exclusive by decide)
  | nothing => exact Bounds.consistent_ofExtent (show Extent.bottom.Exclusive by decide)
  | complement operand ih => exact ih.complement
  | intersection operands ih =>
    rw [bounds, boundsAll_eq_map]
    exact Bounds.consistent_intersection (List.forall_mem_map.2 ih)
  | union operands ih =>
    rw [bounds, boundsAll_eq_map]
    exact Bounds.consistent_union (List.forall_mem_map.2 ih)
  | oneOf members => exact Bounds.consistent_ofMembers _
  | object quantifier property filler ih =>
    exact Quantifier.consistent_bounds (property.exclusive_extent signature) ih
  | objectCount count property =>
    exact counted count property
      (Bounds.consistent_ofExtent (show Extent.top.Exclusive by decide))
  | hasValue property value => exact valued property
  | hasSelf property => exact valued property
  | data quantifier property filler =>
    exact Quantifier.consistent_bounds (property.exclusive_extent signature)
      filler.consistent_bounds
  | dataCount count property => exact counted count property (Bounds.consistent_datatypeBounds _)
  | dataHasValue property value => exact valued property

/-- The members of a class expression account for its upper bounds. -/
theorem within_bounds (expression : ClassExpression) :
    (expression.bounds signature).Within expression.memberCount := by
  induction expression with
  | named iri => exact Bounds.within_of_eq_ofExtent (Entity.bounds_eq_ofExtent signature _) _
  | thing => exact Bounds.within_ofExtent .top _
  | nothing => exact Bounds.within_ofExtent .bottom _
  | complement operand ih => exact ih.complement
  | intersection operands ih =>
    rw [bounds, boundsAll_eq_map, memberCount, memberCountAll_eq_sum]
    exact Bounds.within_intersection ih
  | union operands ih =>
    rw [bounds, boundsAll_eq_map, memberCount, memberCountAll_eq_sum]
    exact Bounds.within_union ih
  | oneOf members => exact Bounds.within_ofMembers members
  | object quantifier property filler _ =>
    exact Bounds.within_of_eq_ofExtent Quantifier.bounds_eq_ofExtent _
  | objectCount count property => exact Bounds.within_of_eq_ofExtent Count.bounds_eq_ofExtent _
  | hasValue property value =>
    exact Bounds.within_of_eq_ofExtent (Property.valueBounds_eq_ofExtent _) _
  | hasSelf property => exact Bounds.within_of_eq_ofExtent (Property.valueBounds_eq_ofExtent _) _
  | data quantifier property filler =>
    exact Bounds.within_of_eq_ofExtent Quantifier.bounds_eq_ofExtent _
  | dataCount count property => exact Bounds.within_of_eq_ofExtent Count.bounds_eq_ofExtent _
  | dataHasValue property value =>
    exact Bounds.within_of_eq_ofExtent (Property.valueBounds_eq_ofExtent _) _

/-- The bounds of class expressions that list few members together can be summed up. -/
theorem fit_bounds {operands : List ClassExpression}
    (small : memberCountAll operands < Saturating.greatest) :
    Bounds.Fit (operands.map (bounds signature)) := by
  rw [memberCountAll_eq_sum] at small
  exact Bounds.Fit.of_within (fun operand _ => operand.consistent_bounds signature)
    (fun operand _ => operand.within_bounds signature) small

/-- What is said of a class expression to be full or empty is what its bounds say. -/
theorem extent_bounds (expression : ClassExpression) :
    (expression.bounds signature).extent = expression.extent signature := by
  have listed {operands : List ClassExpression}
      (ih : ∀ operand ∈ operands, (operand.bounds signature).extent = operand.extent signature) :
      (operands.map (bounds signature)).map Bounds.extent = operands.map (extent signature) := by
    rw [List.map_map]
    exact List.map_congr_left ih
  have valued (property : Property) : (Property.valueBounds (property.extent signature)).extent =
      ⟨(property.extent signature).full, false⟩ := by
    rw [Property.valueBounds_eq_ofExtent, Bounds.extent_ofExtent]
  induction expression with
  | named iri => rw [bounds, Entity.bounds_eq_ofExtent, Bounds.extent_ofExtent, extent]
  | thing => rfl
  | nothing => rfl
  | complement operand ih => rw [bounds, Bounds.extent_complement, ih, extent]
  | intersection operands ih =>
    rw [bounds, boundsAll_eq_map, Bounds.extent_intersection, listed ih, extent,
      extentAll_eq_map]
  | union operands ih =>
    rw [bounds, boundsAll_eq_map, Bounds.extent_union, listed ih, extent, extentAll_eq_map]
  | oneOf members => rw [bounds, Bounds.extent_ofMembers, extent]
  | object quantifier property filler _ => rw [extent]
  | objectCount count property => rw [extent]
  | hasValue property value => exact valued property
  | hasSelf property => exact valued property
  | data quantifier property filler => rw [extent]
  | dataCount count property => rw [extent]
  | dataHasValue property value => exact valued property

/-- No class expression is said to hold of everything and of nothing. -/
theorem exclusive_extent (expression : ClassExpression) :
    (expression.extent signature).Exclusive := by
  rw [← extent_bounds]
  exact (expression.consistent_bounds signature).exclusive_extent

end ClassExpression

end OntologyModules
