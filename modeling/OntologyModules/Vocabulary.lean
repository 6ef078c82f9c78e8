/-!
# Built-in vocabulary

The IRIs that have a fixed meaning in every ontology: the universal and the empty class, the
universal and the empty properties, the datatype of all literals, and the two datatypes that
plain literals use most.
-/

namespace OntologyModules

/-- An IRI is kept as the text it was given as; no IRI grammar is imposed on it. -/
abbrev Iri := String

namespace Vocabulary

/-- The class of all individuals. -/
def thing : Iri := "http://www.w3.org/2002/07/owl#Thing"

/-- The class without individuals. -/
def nothing : Iri := "http://www.w3.org/2002/07/owl#Nothing"

/-- The object property that relates every two individuals. -/
def topObjectProperty : Iri := "http://www.w3.org/2002/07/owl#topObjectProperty"

/-- The object property that relates nothing. -/
def bottomObjectProperty : Iri := "http://www.w3.org/2002/07/owl#bottomObjectProperty"

/-- The data property that relates every individual to every literal value. -/
def topDataProperty : Iri := "http://www.w3.org/2002/07/owl#topDataProperty"

/-- The data property that relates nothing. -/
def bottomDataProperty : Iri := "http://www.w3.org/2002/07/owl#bottomDataProperty"

/-- The datatype of all literal values. -/
def literal : Iri := "http://www.w3.org/2000/01/rdf-schema#Literal"

/-- The datatype of character strings. -/
def string : Iri := "http://www.w3.org/2001/XMLSchema#string"

/-- The datatype of integers. -/
def integer : Iri := "http://www.w3.org/2001/XMLSchema#integer"

end Vocabulary

end OntologyModules
