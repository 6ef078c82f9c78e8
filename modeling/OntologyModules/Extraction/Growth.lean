import OntologyModules.Axiom.Entities
import OntologyModules.Locality

/-!
# Growing a module in one flavour

Starting from a seed, every candidate that is not local for the signature reached so far is
chosen, all in one pass, and its entities join the signature for the next pass; the first pass
that chooses nothing ends the growth. The chosen axioms keep the order of the candidates
(`Growth.sublist_axioms`), and each pass chooses at least one more of finitely many candidates,
so the growth ends.
-/

namespace OntologyModules

/-- An axiom that may join the module, and whether it has. -/
structure Candidate where
  /-- The axiom. -/
  statement : Axiom
  /-- Whether an earlier pass chose it. -/
  chosen : Bool
deriving DecidableEq

namespace Candidate

/-- An axiom that has not been chosen. -/
def ofAxiom (statement : Axiom) : Candidate := ⟨statement, false⟩

/-- Whether the axiom is to be chosen now: it has not been yet and is not local. -/
def isFresh (signature : Signature) (candidate : Candidate) : Bool :=
  !candidate.chosen && !candidate.statement.isLocal signature

/-- The candidate after a pass. -/
def choose (signature : Signature) (candidate : Candidate) : Candidate :=
  { candidate with chosen := candidate.chosen || candidate.isFresh signature }

/-- The candidates that are to be chosen now. -/
def freshOnes (signature : Signature) (candidates : List Candidate) : List Candidate :=
  candidates.filter (isFresh signature)

/-- The candidates after a pass. -/
def chooseAll (signature : Signature) (candidates : List Candidate) : List Candidate :=
  candidates.map (choose signature)

/-- How many candidates have not been chosen. -/
def openCount (candidates : List Candidate) : Nat := candidates.countP (!·.chosen)

/-- The chosen axioms, in order. -/
def chosenAxioms (candidates : List Candidate) : List Axiom :=
  (candidates.filter (·.chosen)).map (·.statement)

/-- A candidate is fresh when it is neither chosen nor local. -/
theorem isFresh_iff {signature : Signature} {candidate : Candidate} :
    candidate.isFresh signature = true ↔
      candidate.chosen = false ∧ candidate.statement.isLocal signature = false := by
  simp only [isFresh, Bool.and_eq_true, Bool.not_eq_true']

/-- Candidates are made of the axioms in their order. -/
theorem map_statement_ofAxiom (axioms : List Axiom) :
    (axioms.map ofAxiom).map (·.statement) = axioms := by
  rw [List.map_map]
  exact List.map_id axioms

/-- A pass leaves the axioms as they are. -/
theorem map_statement_chooseAll (signature : Signature) (candidates : List Candidate) :
    (chooseAll signature candidates).map (·.statement) = candidates.map (·.statement) := by
  rw [chooseAll, List.map_map]
  rfl

/-- A pass leaves open what it does not choose. -/
theorem openCount_chooseAll_add_length (signature : Signature) (candidates : List Candidate) :
    openCount (chooseAll signature candidates) + (freshOnes signature candidates).length =
      openCount candidates := by
  have choice (candidate : Candidate) :
      (!(candidate.choose signature).chosen) =
        (!candidate.chosen && !candidate.isFresh signature) := Bool.not_or ..
  induction candidates with
  | nil => rfl
  | cons first rest ih =>
    simp only [openCount, chooseAll, freshOnes, List.map_cons, List.countP_cons, List.filter_cons,
      choice] at ih ⊢
    cases isFresh : first.isFresh signature with
    | true =>
      have wasOpen : first.chosen = false := (isFresh_iff.1 isFresh).1
      simp only [wasOpen, Bool.not_true, Bool.not_false, Bool.and_false, Bool.false_eq_true,
        ite_true, ite_false, List.length_cons]
      omega
    | false =>
      simp only [Bool.not_false, Bool.and_true, Bool.false_eq_true, ite_false]
      omega

/-- A pass that finds a fresh candidate leaves fewer open. -/
theorem openCount_chooseAll_lt {signature : Signature} {candidates : List Candidate}
    (fresh : freshOnes signature candidates ≠ []) :
    openCount (chooseAll signature candidates) < openCount candidates := by
  have found : 0 < (freshOnes signature candidates).length := List.length_pos_iff.2 fresh
  have split := openCount_chooseAll_add_length signature candidates
  omega

end Candidate

/-- What one pass of a growth did. -/
structure Pass where
  /-- How many axioms it chose. -/
  added : Nat
  /-- How many entities the signature had after it. -/
  signatureSize : Nat
deriving DecidableEq, Repr

/-- The outcome of a growth. -/
structure Growth where
  /-- The axioms chosen, in the order of the candidates. -/
  axioms : List Axiom
  /-- The seed with the entities of the axioms chosen. -/
  signature : Signature
  /-- The passes that chose something, in order. -/
  passes : List Pass
deriving DecidableEq

namespace Growth

/-- Passes over the candidates until one chooses nothing. -/
def continueFrom (signature : Signature) (candidates : List Candidate) : Growth :=
  let fresh := Candidate.freshOnes signature candidates
  if fresh = [] then ⟨Candidate.chosenAxioms candidates, signature, []⟩
  else
    let extended := signature.extend (fresh.flatMap (·.statement.mentions))
    let later := continueFrom extended (Candidate.chooseAll signature candidates)
    { later with passes := ⟨fresh.length, extended.size⟩ :: later.passes }
termination_by Candidate.openCount candidates
decreasing_by exact Candidate.openCount_chooseAll_lt ‹_›

/-- The module of a seed within the candidates, in one flavour. -/
def ofSeed (candidates : List Axiom) (seed : List Entity) (flavour : Flavour) : Growth :=
  continueFrom (.ofEntities seed (.uniform flavour)) (candidates.map Candidate.ofAxiom)

/-- The axioms chosen are among the candidates and in their order. -/
theorem sublist_continueFrom (signature : Signature) (candidates : List Candidate) :
    (continueFrom signature candidates).axioms.Sublist (candidates.map (·.statement)) := by
  fun_induction continueFrom signature candidates with
  | case1 => exact List.filter_sublist.map _
  | case2 signature candidates _ _ _ _ ih =>
    rw [Candidate.map_statement_chooseAll] at ih
    exact ih

/-- The module of a seed is a part of the candidates, in their order. -/
theorem sublist_axioms (candidates : List Axiom) (seed : List Entity) (flavour : Flavour) :
    (ofSeed candidates seed flavour).axioms.Sublist candidates := by
  have part := sublist_continueFrom (.ofEntities seed (.uniform flavour))
    (candidates.map Candidate.ofAxiom)
  rw [Candidate.map_statement_ofAxiom] at part
  exact part

end Growth

end OntologyModules
