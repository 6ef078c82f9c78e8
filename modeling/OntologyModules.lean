import OntologyModules.Format.Locality
import OntologyModules.Format.Ontology
import OntologyModules.Json.Render
import OntologyModules.Proofs.Cardinality.Saturation
import OntologyModules.Proofs.Extraction.Conservativity
import OntologyModules.Proofs.Extraction.Monotonicity
import OntologyModules.Proofs.Extraction.OneByOne
import OntologyModules.Proofs.Extraction.Repetition
import OntologyModules.Proofs.Extraction.Termination
import OntologyModules.Proofs.Format.RoundTrip
import OntologyModules.Proofs.Locality.Coherence
import OntologyModules.Proofs.Locality.Duality
import OntologyModules.Proofs.Locality.Expansion
import OntologyModules.Proofs.Locality.History
import OntologyModules.Proofs.Locality.NamedValue
import OntologyModules.Proofs.Locality.Occupancy
import OntologyModules.Proofs.Locality.Range
import OntologyModules.Proofs.Locality.Reordering
import OntologyModules.Proofs.Locality.Substitution
import OntologyModules.Proofs.Ontology.History
