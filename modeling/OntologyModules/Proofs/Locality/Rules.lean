import OntologyModules.Locality
import OntologyModules.Proofs.Cardinality.Bounds

/-!
# What the rules ask

The rules for names and for lists of operands, stated as conditions. A name is said to hold of
everything or of nothing when it is built in or read so. The rules that compare several operands
pass over their list and decide at each operand by whether it is known to be empty; the same
conditions are stated here about the list as a whole: all operands are empty or all are full, of
any two operands one is empty, or one operand is full and the others are empty. The conditions
imply the rules when no operand is said to be both.
-/

namespace OntologyModules

/-- The convention of the signature says how the entity is read: it is neither inside nor built
in. -/
def Signature.Reads (signature : Signature) (entity : Entity) : Prop :=
  entity ∉ signature ∧ entity.isTop = false ∧ entity.isBottom = false

instance (signature : Signature) (entity : Entity) : Decidable (signature.Reads entity) :=
  inferInstanceAs (Decidable (_ ∧ _ ∧ _))

/-- Signatures of one convention read the entities of a kind in one flavour. -/
theorem Signature.flavour_congr {first second : Signature}
    (convention : first.convention = second.convention) (kind : EntityKind) :
    first.flavour kind = second.flavour kind := by
  unfold flavour
  rw [convention]

namespace Entity

variable {signature : Signature} {entity : Entity}

/-- A name is said to hold of everything when it is built in or read so. -/
theorem full_iff : (entity.extent signature).full = true ↔
    entity.isTop = true ∨ signature.Reads entity ∧ signature.flavour entity.kind = .top := by
  unfold extent Signature.readsTop Signature.Reads Flavour.isTop
  cases entity.isTop with
  | true => simp
  | false =>
    simp only [Bool.false_or, Bool.and_eq_true, Bool.not_eq_true', decide_eq_true_eq,
      decide_eq_false_iff_not, Bool.false_eq_true, false_or, true_and]
    exact ⟨fun ⟨bottom, top, outside⟩ => ⟨⟨outside, bottom⟩, top⟩,
      fun ⟨⟨outside, bottom⟩, top⟩ => ⟨bottom, top, outside⟩⟩

/-- A name is said to hold of nothing when it is built in or read so. -/
theorem empty_iff : (entity.extent signature).empty = true ↔
    entity.isBottom = true ∨ signature.Reads entity ∧ signature.flavour entity.kind = .bottom := by
  unfold extent Signature.readsBottom Signature.Reads
  cases entity.isBottom with
  | true => simp
  | false =>
    cases signature.flavour entity.kind <;> simp [Flavour.isTop, and_comm]

end Entity

namespace Extent

/-- Operands are equivalent when there are fewer than two, or all are empty, or all are full. -/
theorem areEquivalent_iff {operands : List Extent}
    (exclusive : ∀ operand ∈ operands, operand.Exclusive) :
    areEquivalent operands = true ↔ operands.length ≤ 1 ∨
      (∀ operand ∈ operands, operand.empty = true) ∨
        ∀ operand ∈ operands, operand.full = true := by
  match operands with
  | [] => simp [areEquivalent]
  | [single] => simp [areEquivalent]
  | first :: second :: rest =>
    have several : ¬(first :: second :: rest).length ≤ 1 := by
      rw [List.length_cons, List.length_cons]
      omega
    have rule : areEquivalent (first :: second :: rest) =
        if first.empty then (second :: rest).all (·.empty)
        else first.full && (second :: rest).all (·.full) := rfl
    rw [or_iff_right several, rule]
    by_cases empty : first.empty = true
    · have notAllFull : ¬∀ operand ∈ first :: second :: rest, operand.full = true := fun full =>
        exclusive first List.mem_cons_self ⟨full first List.mem_cons_self, empty⟩
      rw [if_pos empty, List.all_eq_true, or_iff_left notAllFull]
      constructor
      · intro others
        exact List.forall_mem_cons.2 ⟨empty, others⟩
      · intro all operand mem
        exact all operand (List.mem_cons_of_mem first mem)
    · have notAllEmpty : ¬∀ operand ∈ first :: second :: rest, operand.empty = true := fun all =>
        empty (all first List.mem_cons_self)
      rw [if_neg empty, Bool.and_eq_true, List.all_eq_true, or_iff_right notAllEmpty]
      constructor
      · intro both
        exact List.forall_mem_cons.2 both
      · intro all
        exact List.forall_mem_cons.1 all

/-- Operands are disjoint when of any two of them one is empty. -/
theorem areDisjoint_iff {operands : List Extent} :
    areDisjoint operands = true ↔
      operands.Pairwise fun first second => first.empty = true ∨ second.empty = true := by
  rw [areDisjoint, decide_eq_true_eq]
  induction operands with
  | nil => simp
  | cons first rest ih =>
    rw [List.pairwise_cons]
    by_cases empty : first.empty = true
    · rw [List.filter_cons_of_neg (by simp [empty]), ih]
      exact (and_iff_right fun _ _ => .inl empty).symm
    · -- The first operand may hold of something, so none of the others may.
      rw [List.filter_cons_of_pos (by simp [empty]), List.length_cons]
      have none : (rest.filter (!·.empty)).length = 0 ↔ ∀ other ∈ rest, other.empty = true := by
        simp [List.filter_eq_nil_iff]
      constructor
      · intro few
        have others := none.1 (by omega)
        refine ⟨fun other mem => .inr (others other mem), ?_⟩
        exact ih.1 (by rw [none.2 others]; omega)
      · rintro ⟨others, -⟩
        have all := none.2 fun other mem => (others other mem).resolve_left empty
        omega

/-- One operand is full and all others are empty. -/
def HasSingleFullPart (parts : List Extent) : Prop :=
  ∃ before part after, parts = before ++ part :: after ∧ part.full = true ∧
    (∀ other ∈ before, other.empty = true) ∧ ∀ other ∈ after, other.empty = true

/-- The full part is one of the parts. -/
theorem HasSingleFullPart.exists_full {parts : List Extent} (single : HasSingleFullPart parts) :
    ∃ part ∈ parts, part.full = true := by
  obtain ⟨before, part, after, rfl, full, -, -⟩ := single
  exact ⟨part, List.mem_append_right before List.mem_cons_self, full⟩

/-- Of any two parts at least one is not the full one, and so is empty. -/
theorem HasSingleFullPart.pairwise {parts : List Extent} (single : HasSingleFullPart parts) :
    parts.Pairwise fun first second => first.empty = true ∨ second.empty = true := by
  obtain ⟨before, part, after, rfl, -, earlier, later⟩ := single
  rw [List.pairwise_append, List.pairwise_cons]
  refine ⟨?_, ⟨fun other mem => .inr (later other mem), ?_⟩, fun other mem _ _ =>
    .inl (earlier other mem)⟩
  · exact List.pairwise_of_forall_mem_list fun first mem _ _ => .inl (earlier first mem)
  · exact List.pairwise_of_forall_mem_list fun first mem _ _ => .inl (later first mem)

/-- A part is passed over when it is empty, and must be the full one when it is not. -/
theorem onePartIsFull_iff {parts : List Extent}
    (exclusive : ∀ part ∈ parts, part.Exclusive) :
    onePartIsFull parts = true ↔ HasSingleFullPart parts := by
  induction parts with
  | nil => simp [onePartIsFull, HasSingleFullPart]
  | cons first rest ih =>
    obtain ⟨single, others⟩ := List.forall_mem_cons.1 exclusive
    rw [onePartIsFull]
    constructor
    · intro rule
      by_cases empty : first.empty = true
      · rw [if_pos empty] at rule
        obtain ⟨before, part, after, rfl, full, earlier, later⟩ := (ih others).1 rule
        exact ⟨first :: before, part, after, rfl, full,
          List.forall_mem_cons.2 ⟨empty, earlier⟩, later⟩
      · rw [if_neg empty, Bool.and_eq_true, List.all_eq_true] at rule
        exact ⟨[], first, rest, rfl, rule.1, List.forall_mem_nil _, rule.2⟩
    · rintro ⟨before, part, after, split, full, earlier, later⟩
      cases before with
      | nil =>
        obtain ⟨rfl, rfl⟩ := List.cons.inj split
        rw [if_neg fun empty => single ⟨full, empty⟩, Bool.and_eq_true, List.all_eq_true]
        exact ⟨full, later⟩
      | cons head tail =>
        obtain ⟨rfl, rfl⟩ := List.cons.inj split
        obtain ⟨empty, between⟩ := List.forall_mem_cons.1 earlier
        rw [if_pos empty, ih others]
        exact ⟨tail, part, after, rfl, full, between, later⟩

/-- A whole is the disjoint union of parts that are all empty, or of which one is full. -/
theorem isDisjointUnion_iff {whole : Extent} {parts : List Extent} (alone : whole.Exclusive)
    (exclusive : ∀ part ∈ parts, part.Exclusive) :
    whole.isDisjointUnion parts = true ↔
      whole.empty = true ∧ (∀ part ∈ parts, part.empty = true) ∨
        whole.full = true ∧ HasSingleFullPart parts := by
  rw [isDisjointUnion, ← onePartIsFull_iff exclusive]
  by_cases empty : whole.empty = true
  · have notFull : ¬whole.full = true := fun full => alone ⟨full, empty⟩
    rw [if_pos empty, List.all_eq_true, and_iff_right empty]
    exact (or_iff_left fun full => notFull full.1).symm
  · rw [if_neg empty, Bool.and_eq_true]
    exact (or_iff_right fun none => empty none.1).symm

end Extent

end OntologyModules
