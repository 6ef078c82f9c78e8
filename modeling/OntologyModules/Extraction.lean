import OntologyModules.Extraction.Alternation
import OntologyModules.Ontology

/-!
# Modules of an ontology

The module of a seed consists of the axioms of an ontology that matter for the entities of the
seed, in the order of the ontology. Bottom and top modules are grown in one flavour, star
modules by alternating both. Declarations are never part of a module. An extraction also records
its passes, and its log reports them.
-/

namespace OntologyModules

/-- How a module is made. -/
inductive ModuleKind where
  /-- Grown while names outside the signature are read as empty. -/
  | bottom
  /-- Grown while names outside the signature are read as universal. -/
  | top
  /-- Grown in both flavours in turn until neither drops an axiom. -/
  | star
deriving DecidableEq, Repr

/-- The axioms that matter for a signature. -/
structure Module where
  /-- The axioms, in the order of the ontology. -/
  axioms : List Axiom
  /-- The seed with the entities of the axioms, in the flavour of the last round. -/
  signature : Signature
deriving DecidableEq

namespace Module

/-- How many axioms the module has. -/
def size (result : Module) : Nat := result.axioms.length

/-- Whether an axiom is in the module. -/
def contains (result : Module) (ax : Axiom) : Bool := decide (ax ∈ result.axioms)

end Module

/-- How important a log entry is. -/
inductive LogLevel where
  /-- A step on the way. -/
  | debug
  /-- A result. -/
  | info
deriving DecidableEq, Repr

/-- What an extraction reports while it runs. -/
inductive LogEntry where
  /-- A pass chose axioms; passes are counted from one in every round. -/
  | pass (flavour : Flavour) (number : Nat) (step : Pass)
  /-- The module was extracted from an ontology with so many axioms. -/
  | extracted (kind : ModuleKind) (moduleSize ontologySize signatureSize : Nat)
deriving DecidableEq, Repr

namespace LogEntry

/-- How important the entry is. -/
def level : LogEntry → LogLevel
  | pass .. => .debug
  | extracted .. => .info

/-- The word for a flavour. -/
def flavourName : Flavour → String
  | .bottom => "Bottom"
  | .top => "Top"

/-- The word for a kind of module. -/
def kindName : ModuleKind → String
  | .bottom => "Bottom"
  | .top => "Top"
  | .star => "Star"

/-- The text of the entry. -/
def message : LogEntry → String
  | pass flavour number step =>
    flavourName flavour ++ " locality pass " ++ toString number ++ ": " ++
      toString step.added ++ " axioms added, signature size " ++ toString step.signatureSize
  | extracted kind moduleSize ontologySize signatureSize =>
    "Extracted " ++ kindName kind ++ " module: " ++ toString moduleSize ++ " of " ++
      toString ontologySize ++ " axioms, signature size " ++ toString signatureSize

end LogEntry

namespace Round

/-- The module that the round grew. -/
def result (round : Round) : Module := ⟨round.growth.axioms, round.growth.signature⟩

/-- The passes of the round as log entries. -/
def log (round : Round) : List LogEntry :=
  (round.growth.passes.zipIdx 1).map fun (step, number) => .pass round.flavour number step

end Round

/-- A module with the rounds that made it. -/
structure Extraction where
  /-- The rounds, in order. -/
  rounds : List Round
  /-- The module of the last round. -/
  result : Module
deriving DecidableEq

namespace Extraction

/-- An extraction of one round. -/
def ofRound (round : Round) : Extraction := ⟨[round], round.result⟩

/-- An extraction of the rounds of an alternation. -/
def ofAlternation (alternation : Alternation) : Extraction :=
  ⟨alternation.rounds, alternation.last.result⟩

/-- The module of a seed within a list of candidates. -/
def ofCandidates (candidates : List Axiom) (seed : List Entity) : ModuleKind → Extraction
  | .bottom => ofRound ⟨.bottom, .ofSeed candidates seed .bottom⟩
  | .top => ofRound ⟨.top, .ofSeed candidates seed .top⟩
  | .star => ofAlternation (.ofSeed candidates seed)

end Extraction

namespace Ontology

/-- The extraction of the module of a seed. -/
def extraction (ontology : Ontology) (seed : List Entity) (kind : ModuleKind) : Extraction :=
  .ofCandidates ontology.logicalAxioms seed kind

/-- The module of a seed. -/
def extract (ontology : Ontology) (seed : List Entity) (kind : ModuleKind) : Module :=
  (ontology.extraction seed kind).result

/-- The module of a seed, provided that every axiom of the ontology is well formed. -/
def extractChecked (ontology : Ontology) (seed : List Entity) (kind : ModuleKind) :
    Except Fault Module :=
  match ontology.fault? with
  | some fault => .error fault
  | none => .ok (ontology.extract seed kind)

/-- What the extraction of the module of a seed reports, in order. -/
def extractionLog (ontology : Ontology) (seed : List Entity) (kind : ModuleKind) :
    List LogEntry :=
  let extraction := ontology.extraction seed kind
  extraction.rounds.flatMap Round.log ++
    [.extracted kind extraction.result.size ontology.size extraction.result.signature.size]

end Ontology

end OntologyModules
