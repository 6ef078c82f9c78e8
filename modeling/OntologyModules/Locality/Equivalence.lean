import OntologyModules.Locality.Bounds

/-!
# Universal and empty expressions

Which class expressions and data ranges surely hold of everything or of nothing in every reading
of the names outside a signature. Connectives are decided from their operands; a restriction is
decided by its upper bounds, since it is empty if it has at most no element, and universal if
its complement has. An enumeration without members is empty, and a value restriction never is,
because the value it names exists.
-/

namespace OntologyModules

namespace Bounds

/-- A set with at most no element is empty, and full if its complement is. -/
def extent (bounds : Bounds) : Extent :=
  ⟨bounds.upperComplement = .atMost 0, bounds.upper = .atMost 0⟩

end Bounds

namespace DataRange

mutual

/-- What is known of a data range. -/
def extent : DataRange → Extent
  | datatype iri => ⟨iri == Vocabulary.literal, false⟩
  | complement range => (extent range).complement
  | intersection operands => .intersection (extentAll operands)
  | union operands => .union (extentAll operands)
  | oneOf members => ⟨false, members.isEmpty⟩
  | restriction _ _ => .unknown

/-- What is known of each of the data ranges. -/
def extentAll : List DataRange → List Extent
  | [] => []
  | first :: rest => extent first :: extentAll rest

end

/-- Each data range of a list has its own extent. -/
theorem extentAll_eq_map (ranges : List DataRange) : extentAll ranges = ranges.map extent := by
  induction ranges with
  | nil => rfl
  | cons first rest ih => rw [extentAll, ih, List.map_cons]

end DataRange

namespace ClassExpression

mutual

/-- What is known of a class expression. -/
def extent (signature : Signature) : ClassExpression → Extent
  | named iri => Entity.extent signature ⟨.namedClass, iri⟩
  | thing => .top
  | nothing => .bottom
  | complement operand => (extent signature operand).complement
  | intersection operands => .intersection (extentAll signature operands)
  | union operands => .union (extentAll signature operands)
  | oneOf members => ⟨false, members.isEmpty⟩
  | object quantifier property filler =>
    (bounds signature (object quantifier property filler)).extent
  | objectCount count property => (bounds signature (objectCount count property)).extent
  | hasValue property _ | hasSelf property | dataHasValue property _ =>
    ⟨(property.extent signature).full, false⟩
  | data quantifier property filler =>
    (bounds signature (data quantifier property filler)).extent
  | dataCount count property => (bounds signature (dataCount count property)).extent

/-- What is known of each of the class expressions. -/
def extentAll (signature : Signature) : List ClassExpression → List Extent
  | [] => []
  | first :: rest => extent signature first :: extentAll signature rest

end

/-- Each class expression of a list has its own extent. -/
theorem extentAll_eq_map (signature : Signature) (classes : List ClassExpression) :
    extentAll signature classes = classes.map (extent signature) := by
  induction classes with
  | nil => rfl
  | cons first rest ih => rw [extentAll, ih, List.map_cons]

end ClassExpression

end OntologyModules
