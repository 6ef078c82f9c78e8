import OntologyModules.ClassExpression

/-!
# Induction over data ranges and class expressions

Both kinds of expression nest through lists of operands. The eliminators here give one case for
each constructor, with the hypothesis for every operand of a connective, so that a proof about
all expressions follows the constructors and never mentions the recursion of the lists.
-/

namespace OntologyModules

/-- Induction over data ranges, with the hypothesis at every operand of a connective. -/
@[elab_as_elim, induction_eliminator]
theorem DataRange.induction {motive : DataRange → Prop}
    (datatype : ∀ iri, motive (.datatype iri))
    (complement : ∀ range, motive range → motive (.complement range))
    (intersection : ∀ operands, (∀ operand ∈ operands, motive operand) →
      motive (.intersection operands))
    (union : ∀ operands, (∀ operand ∈ operands, motive operand) → motive (.union operands))
    (oneOf : ∀ members, motive (.oneOf members))
    (restriction : ∀ iri facets, motive (.restriction iri facets)) :
    ∀ range, motive range
  | .datatype iri => datatype iri
  | .complement range => complement range
      (induction datatype complement intersection union oneOf restriction range)
  | .intersection operands => intersection operands fun operand _ =>
      induction datatype complement intersection union oneOf restriction operand
  | .union operands => union operands fun operand _ =>
      induction datatype complement intersection union oneOf restriction operand
  | .oneOf members => oneOf members
  | .restriction iri facets => restriction iri facets

/-- Induction over class expressions, with the hypothesis at every operand of a connective and
at the filler of a restriction. -/
@[elab_as_elim, induction_eliminator]
theorem ClassExpression.induction {motive : ClassExpression → Prop}
    (named : ∀ iri, motive (.named iri))
    (thing : motive .thing)
    (nothing : motive .nothing)
    (complement : ∀ operand, motive operand → motive (.complement operand))
    (intersection : ∀ operands, (∀ operand ∈ operands, motive operand) →
      motive (.intersection operands))
    (union : ∀ operands, (∀ operand ∈ operands, motive operand) → motive (.union operands))
    (oneOf : ∀ members, motive (.oneOf members))
    (object : ∀ quantifier property filler, motive filler →
      motive (.object quantifier property filler))
    (objectCount : ∀ count property, motive (.objectCount count property))
    (hasValue : ∀ property value, motive (.hasValue property value))
    (hasSelf : ∀ property, motive (.hasSelf property))
    (data : ∀ quantifier property filler, motive (.data quantifier property filler))
    (dataCount : ∀ count property, motive (.dataCount count property))
    (dataHasValue : ∀ property value, motive (.dataHasValue property value)) :
    ∀ expression, motive expression
  | .named iri => named iri
  | .thing => thing
  | .nothing => nothing
  | .complement operand => complement operand
      (induction named thing nothing complement intersection union oneOf object objectCount
        hasValue hasSelf data dataCount dataHasValue operand)
  | .intersection operands => intersection operands fun operand _ =>
      induction named thing nothing complement intersection union oneOf object objectCount
        hasValue hasSelf data dataCount dataHasValue operand
  | .union operands => union operands fun operand _ =>
      induction named thing nothing complement intersection union oneOf object objectCount
        hasValue hasSelf data dataCount dataHasValue operand
  | .oneOf members => oneOf members
  | .object quantifier property filler => object quantifier property filler
      (induction named thing nothing complement intersection union oneOf object objectCount
        hasValue hasSelf data dataCount dataHasValue filler)
  | .objectCount count property => objectCount count property
  | .hasValue property value => hasValue property value
  | .hasSelf property => hasSelf property
  | .data quantifier property filler => data quantifier property filler
  | .dataCount count property => dataCount count property
  | .dataHasValue property value => dataHasValue property value

end OntologyModules
