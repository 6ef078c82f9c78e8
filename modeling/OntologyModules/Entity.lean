import OntologyModules.Vocabulary

/-!
# Named entities

An entity is an IRI used as a name of one of five kinds; the same IRI under two kinds names two
entities. Entities are ordered by kind first and by the code points of the IRI second, and
`Entity.lt_trans`, `Entity.lt_irrefl` and `Entity.lt_or_eq_or_gt` say that this order is strict
and total, so a set of entities has exactly one sorted listing.
-/

namespace OntologyModules

/-- What an IRI is used to name. -/
inductive EntityKind where
  /-- A class of individuals. -/
  | namedClass
  /-- A relation between individuals. -/
  | objectProperty
  /-- A relation from individuals to literal values. -/
  | dataProperty
  /-- One individual. -/
  | individual
  /-- A set of literal values. -/
  | datatype
deriving DecidableEq, Repr

namespace EntityKind

/-- The word for the kind. -/
def name : EntityKind → String
  | namedClass => "Class"
  | objectProperty => "ObjectProperty"
  | dataProperty => "DataProperty"
  | individual => "NamedIndividual"
  | datatype => "Datatype"

/-- Every kind, in order. -/
def all : List EntityKind := [namedClass, objectProperty, dataProperty, individual, datatype]

/-- The place of the kind in the order of kinds. -/
def rank : EntityKind → Nat
  | namedClass => 0
  | objectProperty => 1
  | dataProperty => 2
  | individual => 3
  | datatype => 4

/-- Two kinds at the same place are the same kind. -/
theorem rank_injective {first second : EntityKind} (same : first.rank = second.rank) :
    first = second := by
  cases first <;> cases second <;> simp [rank] at same ⊢

/-- No kind is left out of the list of kinds. -/
theorem mem_all (kind : EntityKind) : kind ∈ all := by
  cases kind <;> simp [all]

end EntityKind

/-- An IRI used as a name of one kind. -/
structure Entity where
  /-- What the IRI names here. -/
  kind : EntityKind
  /-- The name. -/
  iri : Iri
deriving DecidableEq, Repr

namespace Entity

/-- The built-in entities that hold of everything of their kind. -/
def isTop (entity : Entity) : Bool :=
  match entity.kind with
  | .namedClass => entity.iri == Vocabulary.thing
  | .objectProperty => entity.iri == Vocabulary.topObjectProperty
  | .dataProperty => entity.iri == Vocabulary.topDataProperty
  | .datatype => entity.iri == Vocabulary.literal
  | .individual => false

/-- The built-in entities that hold of nothing. -/
def isBottom (entity : Entity) : Bool :=
  match entity.kind with
  | .namedClass => entity.iri == Vocabulary.nothing
  | .objectProperty => entity.iri == Vocabulary.bottomObjectProperty
  | .dataProperty => entity.iri == Vocabulary.bottomDataProperty
  | .individual | .datatype => false

/-- No entity is built in as universal and as empty. -/
theorem not_isTop_and_isBottom (entity : Entity) : ¬(entity.isTop ∧ entity.isBottom) := by
  obtain ⟨kind, iri⟩ := entity
  cases kind <;> simp only [isTop, isBottom, beq_iff_eq, Bool.false_eq_true, and_false,
    not_false_eq_true] <;>
    rintro ⟨rfl, same⟩ <;> revert same <;> decide

/-- The kind, with the name in parentheses. -/
def display (entity : Entity) : String := entity.kind.name ++ "(" ++ entity.iri ++ ")"

/-- Entities are ordered by kind, then by name. -/
instance : LT Entity where
  lt first second := first.kind.rank < second.kind.rank ∨
    first.kind = second.kind ∧ first.iri < second.iri

instance (first second : Entity) : Decidable (first < second) :=
  inferInstanceAs (Decidable (_ ∨ _ ∧ _))

/-- The order, spelled out. -/
theorem lt_iff {first second : Entity} : first < second ↔
    first.kind.rank < second.kind.rank ∨ first.kind = second.kind ∧ first.iri < second.iri :=
  Iff.rfl

/-- No entity comes before itself. -/
theorem lt_irrefl (entity : Entity) : ¬entity < entity := by
  rw [lt_iff]
  rintro (before | ⟨-, before⟩)
  · exact Nat.lt_irrefl _ before
  · exact String.lt_irrefl _ before

/-- The order is transitive. -/
theorem lt_trans {first second third : Entity} (left : first < second) (right : second < third) :
    first < third := by
  rw [lt_iff] at left right ⊢
  rcases left with left | ⟨sameLeft, left⟩ <;> rcases right with right | ⟨sameRight, right⟩
  · exact .inl (Nat.lt_trans left right)
  · exact .inl (sameRight ▸ left)
  · exact .inl (sameLeft ▸ right)
  · exact .inr ⟨sameLeft.trans sameRight, String.lt_trans left right⟩

/-- Of two entities one comes first, unless they are the same. -/
theorem lt_or_eq_or_gt (first second : Entity) :
    first < second ∨ first = second ∨ second < first := by
  rcases Nat.lt_trichotomy first.kind.rank second.kind.rank with before | same | after
  · exact .inl (.inl before)
  · have kinds := EntityKind.rank_injective same
    by_cases before : first.iri < second.iri
    · exact .inl (.inr ⟨kinds, before⟩)
    · by_cases after : second.iri < first.iri
      · exact .inr (.inr (.inr ⟨kinds.symm, after⟩))
      · have names := String.le_antisymm (String.not_lt.1 after) (String.not_lt.1 before)
        refine .inr (.inl ?_)
        cases first
        cases second
        simp_all
  · exact .inr (.inr (.inl after))

end Entity

end OntologyModules
