/-!
# Finite sets as sorted listings

A set is its sorted listing without repetition, so sets with the same members are equal
(`SortedSet.ext`) and every set is listed in one way. Insertion adds one member and keeps the
others (`SortedSet.mem_insert`).
-/

namespace OntologyModules

/-- A strict order in which two different values always compare. -/
class StrictTotalOrder (α : Type) [LT α] : Prop where
  /-- Nothing comes before itself. -/
  lt_irrefl (item : α) : ¬item < item
  /-- The order is transitive. -/
  lt_trans {first second third : α} : first < second → second < third → first < third
  /-- Of two values one comes first, unless they are the same. -/
  lt_or_eq_or_gt (first second : α) : first < second ∨ first = second ∨ second < first

/-- A finite set, given by its members in increasing order. -/
structure SortedSet (α : Type) [LT α] where
  /-- The members, each once, in increasing order. -/
  toList : List α
  /-- Each member comes before all later ones. -/
  sorted : toList.Pairwise (· < ·)
deriving DecidableEq

namespace SortedSet

variable {α : Type} [LT α]

instance : Membership α (SortedSet α) where
  mem set item := item ∈ set.toList

/-- Membership in a set is membership in its listing. -/
theorem mem_iff {item : α} {set : SortedSet α} : item ∈ set ↔ item ∈ set.toList := Iff.rfl

/-- The set without members. -/
def empty : SortedSet α := ⟨[], .nil⟩

/-- How many members the set has. -/
def size (set : SortedSet α) : Nat := set.toList.length

/-- The empty set has no member. -/
theorem not_mem_empty (item : α) : item ∉ (empty : SortedSet α) := List.not_mem_nil

section Equality

variable [StrictTotalOrder α]

/-- No member is listed twice. -/
theorem nodup_toList (set : SortedSet α) : set.toList.Nodup := by
  refine set.sorted.imp fun {item other} before => ?_
  rintro rfl
  exact StrictTotalOrder.lt_irrefl item before

/-- Sorted lists with the same members are equal. -/
theorem eq_of_sorted {first second : List α} (sortedFirst : first.Pairwise (· < ·))
    (sortedSecond : second.Pairwise (· < ·)) (members : ∀ item, item ∈ first ↔ item ∈ second) :
    first = second := by
  induction first generalizing second with
  | nil =>
    cases second with
    | nil => rfl
    | cons head tail => exact absurd ((members head).2 List.mem_cons_self) List.not_mem_nil
  | cons head tail ih =>
    cases second with
    | nil => exact absurd ((members head).1 List.mem_cons_self) List.not_mem_nil
    | cons head' tail' =>
      obtain ⟨least, sortedTail⟩ := List.pairwise_cons.1 sortedFirst
      obtain ⟨least', sortedTail'⟩ := List.pairwise_cons.1 sortedSecond
      have same : head = head' := by
        rcases List.mem_cons.1 ((members head).1 List.mem_cons_self) with h | h
        · exact h
        rcases List.mem_cons.1 ((members head').2 List.mem_cons_self) with h' | h'
        · exact h'.symm
        exact absurd (StrictTotalOrder.lt_trans (least _ h') (least' _ h))
          (StrictTotalOrder.lt_irrefl _)
      subst same
      refine congrArg _ (ih sortedTail sortedTail' fun item => ⟨fun mem => ?_, fun mem => ?_⟩)
      · rcases List.mem_cons.1 ((members item).1 (List.mem_cons_of_mem _ mem)) with h | h
        · exact absurd (h ▸ least _ mem) (StrictTotalOrder.lt_irrefl _)
        · exact h
      · rcases List.mem_cons.1 ((members item).2 (List.mem_cons_of_mem _ mem)) with h | h
        · exact absurd (h ▸ least' _ mem) (StrictTotalOrder.lt_irrefl _)
        · exact h

/-- Sets with the same members are equal. -/
theorem ext {first second : SortedSet α} (members : ∀ item, item ∈ first ↔ item ∈ second) :
    first = second := by
  have same := eq_of_sorted first.sorted second.sorted members
  cases first
  cases second
  simp_all

end Equality

section Inclusion

variable [DecidableEq α]

instance (item : α) (set : SortedSet α) : Decidable (item ∈ set) :=
  inferInstanceAs (Decidable (item ∈ set.toList))

/-- Whether every member of the other set is a member of this one. -/
def includes (set other : SortedSet α) : Bool := other.toList.all (· ∈ set)

/-- One set includes another exactly when it has all of its members. -/
theorem includes_iff {set other : SortedSet α} :
    set.includes other = true ↔ ∀ item ∈ other, item ∈ set := by
  simp only [includes, List.all_eq_true, decide_eq_true_eq]
  rfl

end Inclusion

section Insertion

variable [DecidableLT α] [DecidableEq α]

/-- Puts an item at its place in a sorted list, unless it is there already. -/
def insertSorted (item : α) : List α → List α
  | [] => [item]
  | first :: rest =>
    if item < first then item :: first :: rest
    else if item = first then first :: rest
    else first :: insertSorted item rest

/-- Insertion adds the item and nothing else. -/
theorem mem_insertSorted {item other : α} {items : List α} :
    other ∈ insertSorted item items ↔ other = item ∨ other ∈ items := by
  induction items with
  | nil => simp [insertSorted]
  | cons first rest ih =>
    simp only [insertSorted]
    split
    · simp
    · split
      next same => subst same; simp
      · simp only [List.mem_cons, ih, or_left_comm]

variable [StrictTotalOrder α]

/-- Insertion keeps a list sorted. -/
theorem pairwise_insertSorted (item : α) {items : List α} (sorted : items.Pairwise (· < ·)) :
    (insertSorted item items).Pairwise (· < ·) := by
  induction items with
  | nil => simp [insertSorted]
  | cons first rest ih =>
    obtain ⟨least, tail⟩ := List.pairwise_cons.1 sorted
    simp only [insertSorted]
    split
    next before =>
      refine List.pairwise_cons.2 ⟨fun other mem => ?_, sorted⟩
      rcases List.mem_cons.1 mem with rfl | mem
      · exact before
      · exact StrictTotalOrder.lt_trans before (least _ mem)
    next notBefore =>
      split
      · exact sorted
      next different =>
        have after : first < item := by
          rcases StrictTotalOrder.lt_or_eq_or_gt item first with h | h | h
          · exact absurd h notBefore
          · exact absurd h different
          · exact h
        refine List.pairwise_cons.2 ⟨fun other mem => ?_, ih tail⟩
        rcases mem_insertSorted.1 mem with rfl | mem
        · exact after
        · exact least _ mem

/-- The set with one more member. -/
def insert (set : SortedSet α) (item : α) : SortedSet α :=
  ⟨insertSorted item set.toList, pairwise_insertSorted item set.sorted⟩

/-- The set with one more member, and whether that member is new. -/
def insertNew (set : SortedSet α) (item : α) : Bool × SortedSet α :=
  (decide (item ∉ set), set.insert item)

/-- The set with the members of a list besides its own. -/
def insertMany (set : SortedSet α) (items : List α) : SortedSet α := items.foldl insert set

/-- The set of the members of a list. -/
def ofList (items : List α) : SortedSet α := empty.insertMany items

/-- The members of either set. -/
def union (first second : SortedSet α) : SortedSet α := first.insertMany second.toList

/-- Insertion adds the item and nothing else. -/
theorem mem_insert {set : SortedSet α} {item other : α} :
    other ∈ set.insert item ↔ other = item ∨ other ∈ set :=
  mem_insertSorted

/-- Inserting a list adds its members and nothing else. -/
theorem mem_insertMany {set : SortedSet α} {items : List α} {other : α} :
    other ∈ set.insertMany items ↔ other ∈ items ∨ other ∈ set := by
  induction items generalizing set with
  | nil => simp [insertMany]
  | cons first rest ih =>
    have step : set.insertMany (first :: rest) = (set.insert first).insertMany rest := rfl
    rw [step, ih, mem_insert, List.mem_cons]
    exact ⟨fun h => by rcases h with h | h | h <;> simp [h],
      fun h => by rcases h with (h | h) | h <;> simp [h]⟩

/-- The set of a list has the members of the list. -/
theorem mem_ofList {items : List α} {other : α} : other ∈ ofList items ↔ other ∈ items := by
  rw [ofList, mem_insertMany]
  exact or_iff_left (not_mem_empty other)

/-- A union has the members of both sets. -/
theorem mem_union {first second : SortedSet α} {other : α} :
    other ∈ first.union second ↔ other ∈ first ∨ other ∈ second := by
  rw [union, mem_insertMany, or_comm]
  rfl

/-- The listing of a set is a listing of that set. -/
theorem ofList_toList (set : SortedSet α) : ofList set.toList = set := ext fun _ => mem_ofList

end Insertion

end SortedSet

end OntologyModules
