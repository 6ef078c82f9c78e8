import Mathlib.Data.Finset.Card
import OntologyModules.Locality.Signature

/-!
# Histories of signatures

A signature is begun with or without entities and then changed by insertions and extensions in
any order. Although it keeps the names of each kind in a set of their own, it is after any history
the one finite set of the entities supplied (`Signature.History.signature_eq`): it contains them
and no others, it counts and lists each of them once, and its convention is the one it was begun
with (`Signature.History.signature_is_set`).
-/

namespace OntologyModules

/-! ### Entities kind by kind -/

namespace EntityPartition

variable {entities other : EntityPartition}

/-- An insertion reports that the entity is new exactly when it was not a member. -/
theorem insertNew_fst_iff {entity : Entity} :
    (entities.insertNew entity).1 = true ↔ entity ∉ entities := decide_eq_true_iff

/-- As many entities are listed as there are of all kinds together. -/
theorem length_toList (entities : EntityPartition) : entities.toList.length = entities.size := by
  simp only [toList, EntityKind.all, List.flatMap_cons, List.flatMap_nil, List.length_append,
    List.length_map, List.length_nil, names, size, SortedSet.size]
  omega

/-- No entity is listed twice. -/
theorem nodup_toList (entities : EntityPartition) : entities.toList.Nodup := by
  refine List.nodup_flatMap.2 ⟨fun kind _ => ?_, ?_⟩
  · have injective : Function.Injective fun iri : Iri => (⟨kind, iri⟩ : Entity) :=
      fun _ _ same => congrArg Entity.iri same
    exact (entities.names kind).nodup_toList.map injective
  · -- The entities of one kind differ from those of another already in the kind.
    refine List.Pairwise.imp (fun {kind kind'} different => ?_) (by decide : EntityKind.all.Nodup)
    intro entity here there
    obtain ⟨iri, -, rfl⟩ := List.mem_map.1 here
    obtain ⟨iri', -, same⟩ := List.mem_map.1 there
    exact different (congrArg Entity.kind same).symm

/-- One partition includes another exactly when it has all of its members. -/
theorem includes_iff : entities.includes other = true ↔ ∀ entity ∈ other, entity ∈ entities := by
  have kinds : entities.includes other = true ↔
      ∀ kind, (entities.names kind).includes (other.names kind) = true := by
    simp only [includes, Bool.and_eq_true, and_assoc]
    constructor
    · rintro ⟨classes, objectProperties, dataProperties, individuals, datatypes⟩ kind
      cases kind <;> assumption
    · intro all
      exact ⟨all .namedClass, all .objectProperty, all .dataProperty, all .individual,
        all .datatype⟩
  simp only [kinds, SortedSet.includes_iff]
  exact ⟨fun all entity mem => all entity.kind entity.iri mem,
    fun all kind iri mem => all ⟨kind, iri⟩ mem⟩

end EntityPartition

namespace Signature

/-! ### Any number of calls -/

/-- How a signature is begun. -/
inductive Start where
  /-- Without entities, in the default convention. -/
  | empty
  /-- Without entities, in a convention. -/
  | ofConvention (convention : Convention)
  /-- Without entities, in one flavour for classes and properties. -/
  | ofFlavour (flavour : Flavour)
  /-- With some entities, in a convention. -/
  | ofEntities (entities : List Entity) (convention : Convention)
  /-- With some entities, in the default convention. -/
  | ofList (entities : List Entity)
deriving DecidableEq

namespace Start

/-- The signature as it is begun. -/
def signature : Start → Signature
  | empty => .empty
  | ofConvention convention => .ofConvention convention
  | ofFlavour flavour => .ofFlavour flavour
  | ofEntities entities convention => .ofEntities entities convention
  | ofList entities => .ofList entities

/-- The entities that it is begun with. -/
def supplied : Start → List Entity
  | ofEntities entities _ | ofList entities => entities
  | empty | ofConvention _ | ofFlavour _ => []

/-- The convention that it is begun with. -/
def convention : Start → Convention
  | ofConvention convention | ofEntities _ convention => convention
  | ofFlavour flavour => .uniform flavour
  | empty | ofList _ => default

/-- A signature is begun with the entities supplied and in the convention given. -/
theorem signature_eq (start : Start) :
    start.signature = .ofEntities start.supplied start.convention := by
  cases start <;> rfl

end Start

/-- The entities that a call supplies. -/
def Call.supplied : Call → List Entity
  | insert entity => [entity]
  | extend entities => entities

/-- A call adds the entities that it supplies. -/
theorem perform_snd (signature : Signature) (call : Call) :
    (signature.perform call).2 = signature.extend call.supplied := by
  cases call <;> rfl

/-- The signature after calls one after the other. -/
def performAll (signature : Signature) (calls : List Call) : Signature :=
  calls.foldl (fun reached call => (reached.perform call).2) signature

/-- Extending twice is extending by both lists. -/
theorem extend_append (signature : Signature) (first second : List Entity) :
    signature.extend (first ++ second) = (signature.extend first).extend second := by
  simp only [extend, EntityPartition.insertMany, List.foldl_append]

/-- Calls add the entities that they supply. -/
theorem performAll_eq (signature : Signature) (calls : List Call) :
    signature.performAll calls = signature.extend (calls.flatMap Call.supplied) := by
  induction calls generalizing signature with
  | nil => rfl
  | cons call later ih =>
    have step : signature.performAll (call :: later) =
        (signature.perform call).2.performAll later := rfl
    rw [step, ih, perform_snd, List.flatMap_cons, extend_append]

/-- How a signature came about. -/
structure History where
  /-- How it was begun. -/
  start : Start
  /-- The calls after that, in order. -/
  calls : List Call

namespace History

variable (history : History)

/-- The signature after the last call. -/
def signature : Signature := history.start.signature.performAll history.calls

/-- The entities supplied at the beginning and by the calls. -/
def supplied : List Entity := history.start.supplied ++ history.calls.flatMap Call.supplied

/-- After any history the signature is that of the entities supplied. -/
theorem signature_eq :
    history.signature = .ofEntities history.supplied history.start.convention := by
  rw [signature, performAll_eq, Start.signature_eq]
  exact (extend_append (ofConvention _) _ _).symm

/-- The entities are those supplied. -/
theorem mem_signature {entity : Entity} :
    entity ∈ history.signature ↔ entity ∈ history.supplied := by
  rw [signature_eq]
  exact EntityPartition.mem_ofList

/-- The entities are counted once each. -/
theorem size_signature : history.signature.size = history.supplied.toFinset.card := by
  have same : history.supplied.toFinset = history.signature.toList.toFinset := by
    ext entity
    rw [List.mem_toFinset, List.mem_toFinset, mem_toList, mem_signature]
  have unique : history.signature.toList.Nodup := EntityPartition.nodup_toList _
  rw [same, List.toFinset_card_of_nodup unique]
  exact (EntityPartition.length_toList _).symm

end History

/-- The signature of a listing of a signature, in its convention, is that signature. -/
theorem ofEntities_of_perm {signature : Signature} {listed : List Entity}
    (listing : listed.Perm signature.toList) :
    ofEntities listed signature.convention = signature := by
  refine ext_mem rfl fun entity => ?_
  exact EntityPartition.mem_ofList.trans (listing.mem_iff.trans mem_toList)

namespace History

variable (history : History)

/-- After any history the signature is one finite set of entities: it contains exactly those
supplied, where one name under two kinds counts as two entities; the next insertion reports that
its entity is new exactly when the entity is not contained; each entity is counted once and listed
once, and any listing with the convention gives the signature back. The convention is the one it
was begun with, and one signature includes another, whatever the conventions, exactly when it
contains all entities of the other. -/
theorem signature_is_set :
    (∀ entity, entity ∈ history.signature ↔ entity ∈ history.supplied) ∧
    (∀ kind other iri, other ≠ kind →
      ((⟨other, iri⟩ : Entity) ∈ history.signature.insert ⟨kind, iri⟩ ↔
        (⟨other, iri⟩ : Entity) ∈ history.signature)) ∧
    (∀ entity, (history.signature.insertNew entity).1 = true ↔ entity ∉ history.signature) ∧
    history.signature.size = history.supplied.toFinset.card ∧
    history.signature.toList.Nodup ∧
    (∀ entity, entity ∈ history.signature.toList ↔ entity ∈ history.signature) ∧
    (∀ listed : List Entity, listed.Perm history.signature.toList →
      ofEntities listed history.signature.convention = history.signature) ∧
    history.signature.convention = history.start.convention ∧
    ∀ other : Signature, history.signature.includes other = true ↔
      ∀ entity ∈ other, entity ∈ history.signature := by
  refine ⟨fun _ => history.mem_signature, ?_, fun _ => EntityPartition.insertNew_fst_iff,
    history.size_signature, EntityPartition.nodup_toList _, fun _ => mem_toList,
    fun _ => ofEntities_of_perm, ?_, fun _ => EntityPartition.includes_iff⟩
  · intro kind other iri different
    rw [mem_insert, or_iff_right]
    exact fun same => different (congrArg Entity.kind same)
  · rw [signature_eq]
    rfl

/-- A signature with one name under three kinds, one of them supplied twice. -/
def ofSharedName : History where
  start := .ofEntities [⟨.datatype, "A"⟩] ⟨.top, .bottom⟩
  calls := [.insert ⟨.namedClass, "A"⟩, .extend [⟨.individual, "A"⟩, ⟨.namedClass, "A"⟩]]

/-- The name is not shared by a fourth kind until it is supplied for that kind, and the signature
is given back by its entities in another order. -/
theorem signature_is_set_of_sharedName :
    ((⟨.objectProperty, "A"⟩ : Entity) ∈ ofSharedName.signature.insert ⟨.dataProperty, "A"⟩ ↔
      (⟨.objectProperty, "A"⟩ : Entity) ∈ ofSharedName.signature) ∧
    ofEntities [⟨.individual, "A"⟩, ⟨.datatype, "A"⟩, ⟨.namedClass, "A"⟩]
      ofSharedName.signature.convention = ofSharedName.signature := by
  obtain ⟨-, others, -, -, -, -, rebuilt, -, -⟩ := signature_is_set ofSharedName
  exact ⟨others .dataProperty .objectProperty "A" (by decide), rebuilt _ (by decide)⟩

/-- Of the four entities supplied two are the same. -/
example : ofSharedName.signature.size = 3 := by decide

end History

end Signature

end OntologyModules
