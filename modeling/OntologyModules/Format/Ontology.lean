import OntologyModules.Format.Axiom
import OntologyModules.Ontology

/-!
# The written form of ontologies

An ontology is a record of its name, its axioms and its entities. The name may be null or absent.
The entities are read as they are listed; they are not compared with the axioms.
-/

namespace OntologyModules.Ontology

/-- Writes an ontology. -/
def encode (ontology : Ontology) : Json :=
  .record [("iri", .ofOption Json.string ontology.iri),
    ("axioms", .list (ontology.axioms.map Axiom.encode)), ("entities", ontology.entities.encode)]

/-- Reads an ontology. -/
def decode (form : Json.PayloadForm) (json : Json) : Except Problem Ontology := do
  let (iri, axioms, entities) ← json.asRecord₃ "an ontology"
    (.optional "iri" Json.asText) (.required "axioms" (Json.asList (Axiom.decode form)))
    (.required "entities" EntitySet.decode)
  return ⟨iri, axioms, entities⟩

end OntologyModules.Ontology
