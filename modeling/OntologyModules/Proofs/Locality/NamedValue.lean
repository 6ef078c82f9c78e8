import OntologyModules.Proofs.Locality.Duality

/-!
# Value restrictions and their long forms

To be related to a value is to be related to something in the enumeration of that value alone. The
short form is judged by a rule of its own, the long form as an existential restriction. They are
full together. The short form is never said to be empty, since the value exists, while the long
form is empty exactly if its property is; so the two differ just where the property surely relates
nothing, and wherever it may relate something the one can stand for the other
(`NamedValue.longForm_interchangeable`).
-/

namespace OntologyModules

/-- What a value restriction names. -/
inductive NamedValue where
  /-- An individual, for an object property. -/
  | individual (value : Individual)
  /-- A constant, for a data property. -/
  | literal (value : Literal)
deriving DecidableEq, Repr

/-- The bounds of what is related to something in an enumeration of one member are those of what is
related to that member, if there may be anything related at all. -/
theorem Quantifier.bounds_existential_member {related : Extent} (possible : related.empty = false) :
    existential.bounds related (.ofMembers 1) = Property.valueBounds related := by
  obtain ⟨full, empty⟩ := related
  obtain rfl : empty = false := possible
  cases full <;> rfl

namespace NamedValue

/-- The restriction of a property to the value. -/
def shortForm (property : Property) : NamedValue → ClassExpression
  | individual value => .hasValue property value
  | literal value => .dataHasValue property value

/-- The restriction of a property to the enumeration of the value alone. -/
def longForm (property : Property) : NamedValue → ClassExpression
  | individual value => .object .existential property (.oneOf [value])
  | literal value => .data .existential property (.oneOf [value])

variable (signature : Signature) (property : Property) (value : NamedValue)

/-- The bounds of the short form come from the property alone. -/
theorem bounds_shortForm : (value.shortForm property).bounds signature =
    Property.valueBounds (property.extent signature) := by
  cases value <;> rfl

/-- The bounds of the long form are those of a restriction to one listed member. -/
theorem bounds_longForm : (value.longForm property).bounds signature =
    Quantifier.existential.bounds (property.extent signature) (.ofMembers 1) := by
  cases value <;> rfl

/-- The short form is full when the property is, and never empty. -/
theorem extent_shortForm : (value.shortForm property).extent signature =
    ⟨(property.extent signature).full, false⟩ := by
  cases value <;> rfl

/-- The long form is full when the property is, and empty when the property is. -/
theorem extent_longForm :
    (value.longForm property).extent signature = property.extent signature := by
  rw [← ClassExpression.extent_bounds, bounds_longForm]
  obtain ⟨full, empty⟩ := property.extent signature
  cases full <;> cases empty <;> rfl

/-- Where the property may relate something, the two forms have the same bounds. -/
theorem bounds_longForm_eq (possible : (property.extent signature).empty = false) :
    (value.longForm property).bounds signature = (value.shortForm property).bounds signature := by
  rw [bounds_longForm, bounds_shortForm]
  exact Quantifier.bounds_existential_member possible

/-- If the two forms can be exchanged as the smaller class of an axiom, then the property may relate
something, since the long form of what an empty property relates is known to lie within nothing. -/
theorem empty_eq_false_of_exchange
    (exchange : (Axiom.subClassOf (value.longForm property) .nothing).isLocal signature =
      (Axiom.subClassOf (value.shortForm property) .nothing).isLocal signature) :
    (property.extent signature).empty = false := by
  rw [Axiom.isLocal, Axiom.isLocal, extent_longForm, extent_shortForm] at exchange
  exact (Bool.or_false _).symm.trans exchange

/-- The two forms of a value restriction are full together, the short one is never empty, and the
long one is exactly if the property is. If the property is not, and only then, they have the same
bounds, and either can stand for the other at any place of an axiom. -/
theorem longForm_interchangeable :
    ((value.longForm property).extent signature).full =
        ((value.shortForm property).extent signature).full ∧
      ((value.shortForm property).extent signature).empty = false ∧
      ((value.longForm property).extent signature).empty = (property.extent signature).empty ∧
      ((value.longForm property).bounds signature = (value.shortForm property).bounds signature ↔
        (property.extent signature).empty = false) ∧
      ((∀ context : AxiomContext, (context.fill (value.longForm property)).isLocal signature =
          (context.fill (value.shortForm property)).isLocal signature) ↔
        (property.extent signature).empty = false) := by
  rw [extent_longForm, extent_shortForm]
  refine ⟨rfl, rfl, rfl, ⟨fun same => ?_, bounds_longForm_eq signature property value⟩,
    ⟨fun exchange => ?_, fun possible context => ?_⟩⟩
  · exact empty_eq_false_of_exchange signature property value
      ((AxiomContext.subClassOfLeft .hole .nothing).isLocal_fill same)
  · exact empty_eq_false_of_exchange signature property value
      (exchange (.subClassOfLeft .hole .nothing))
  · exact context.isLocal_fill (bounds_longForm_eq signature property value possible)

/-- What an empty property relates to a value is not known to be nothing, but it is when the value
is listed alone, and then it is local that this lies within a class of the signature. -/
theorem not_interchangeable_for_empty_property :
    (ClassExpression.extent (.ofEntities [⟨.namedClass, "B"⟩] default)
        (.hasValue (.object "r") "a")).empty = false ∧
      (ClassExpression.extent (.ofEntities [⟨.namedClass, "B"⟩] default)
        (.object .existential (.object "r") (.oneOf ["a"]))).empty = true ∧
      (Axiom.subClassOf (.hasValue (.object "r") "a") (.named "B")).isLocal
        (.ofEntities [⟨.namedClass, "B"⟩] default) = false ∧
      (Axiom.subClassOf (.object .existential (.object "r") (.oneOf ["a"])) (.named "B")).isLocal
        (.ofEntities [⟨.namedClass, "B"⟩] default) = true := by
  decide +kernel

end NamedValue

end OntologyModules
