import OntologyModules.Extraction.Growth

/-!
# Alternating the flavours

A module can be shrunk by growing a module of the other flavour within it. Rounds of alternating
flavours start from all candidates and the bottom flavour; they end with a round that leaves
nothing, or with the second of two rounds in a row that keep every axiom, so that neither
flavour would drop one. A round never returns more than it was given, so the length of its
result, and with it the number of rounds, is limited.
-/

namespace OntologyModules

/-- One growth of an alternation. -/
structure Round where
  /-- The flavour of the round. -/
  flavour : Flavour
  /-- Its outcome. -/
  growth : Growth
deriving DecidableEq

/-- The rounds of an alternation, of which there is at least one. -/
structure Alternation where
  /-- The first round. -/
  first : Round
  /-- The rounds after it, in order. -/
  later : List Round
deriving DecidableEq

namespace Alternation

/-- The rounds in order. -/
def rounds (alternation : Alternation) : List Round := alternation.first :: alternation.later

/-- The last round. -/
def last (alternation : Alternation) : Round := alternation.later.getLastD alternation.first

/-- Rounds within the given axioms, where `settled` says that the round before kept them all. -/
def continueFrom (seed : List Entity) (flavour : Flavour) (settled : Bool)
    (current : List Axiom) : Alternation :=
  let growth := Growth.ofSeed current seed flavour
  let kept := growth.axioms.length == current.length
  if growth.axioms.isEmpty || kept && settled then ⟨⟨flavour, growth⟩, []⟩
  else
    let next := continueFrom seed flavour.opposite kept growth.axioms
    ⟨⟨flavour, growth⟩, next.rounds⟩
termination_by 2 * current.length + if settled then 0 else 1
decreasing_by
  have shorter : (Growth.ofSeed current seed flavour).axioms.length ≤ current.length :=
    (Growth.sublist_axioms current seed flavour).length_le
  have goesOn : ¬((Growth.ofSeed current seed flavour).axioms.isEmpty ||
      (Growth.ofSeed current seed flavour).axioms.length == current.length && settled) := ‹_›
  by_cases keeps : (Growth.ofSeed current seed flavour).axioms.length = current.length
  · cases settled with
    | true => simp [keeps] at goesOn
    | false => simp [keeps]
  · simp only [beq_iff_eq, keeps, ite_false]
    split <;> omega

/-- The alternation within the candidates, from the bottom flavour. -/
def ofSeed (candidates : List Axiom) (seed : List Entity) : Alternation :=
  continueFrom seed .bottom false candidates

end Alternation

end OntologyModules
