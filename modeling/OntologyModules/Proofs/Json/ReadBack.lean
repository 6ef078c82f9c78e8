import Mathlib.Logic.Function.Defs
import OntologyModules.Json.Decode

/-!
# Reading back what was written

A written form is read back when decoding what is written for a value gives that value
(`Json.ReadsBack`). Different values are then written differently
(`Json.ReadsBack.injective`). Each combinator of decoders reads back a tree that is put together
in the same way, provided that the parts are read back; where a decoder recurses, that is known of
the parts at hand only, so the lemmas speak of single values.
-/

namespace OntologyModules.Json

variable {α β γ : Type}

/-- Every value is read back from what is written for it. -/
def ReadsBack (encode : α → Json) (decode : Json → Except Problem α) : Prop :=
  ∀ value, decode (encode value) = .ok value

/-- Values that are read back are written differently. -/
theorem ReadsBack.injective {encode : α → Json} {decode : Json → Except Problem α}
    (reads : ReadsBack encode decode) : Function.Injective encode := by
  intro first second same
  have read := reads first
  rw [same, reads second] at read
  exact (Except.ok.inj read).symm

/-- What is read is read as part of something else. -/
theorem map_ok {read : Except Problem α} {value : α} (make : α → β) (known : read = .ok value) :
    make <$> read = .ok (make value) := by
  rw [known]
  rfl

/-- Texts are read back. -/
theorem readsBack_text : ReadsBack string asText := fun _ => rfl

/-- Counts are read back. -/
theorem readsBack_word : ReadsBack ofWord asWord := by
  intro word
  have small : word.toNat < UInt32.size := word.toNat_lt
  rw [ofWord, asWord, Int.toNat_natCast, if_pos ⟨Int.natCast_nonneg _, small⟩,
    UInt32.ofNat_toNat]

/-- A value that is not written as null is read back where null may stand. -/
theorem asOption_ok {decode : Json → Except Problem α} {json : Json} {value : α}
    (given : json.isNull = .ok false) (read : decode json = .ok value) :
    asOption decode json = .ok (some value) := by
  rw [asOption, given]
  exact map_ok some read

/-- Values that may be absent are read back, provided that no value is written as null. -/
theorem readsBack_option {encode : α → Json} {decode : Json → Except Problem α}
    (given : ∀ value, (encode value).isNull = .ok false) (reads : ReadsBack encode decode) :
    ReadsBack (ofOption encode) (asOption decode) := by
  rintro (_ | value)
  · rfl
  · exact asOption_ok (given value) (reads value)

/-- Items that are read back are read back up to the end of their array. -/
theorem asItems_map {encode : α → Json} {decode : Json → Except Problem α} {items : List α}
    (reads : ∀ item ∈ items, decode (encode item) = .ok item) :
    asItems decode .closed (items.map encode) = .ok items := by
  induction items with
  | nil => rfl
  | cons first rest ih =>
    obtain ⟨read, others⟩ := List.forall_mem_cons.1 reads
    rw [List.map_cons, asItems, read, ih others]
    rfl

/-- A list is read back when its items are. -/
theorem asList_list {encode : α → Json} {decode : Json → Except Problem α} {items : List α}
    (reads : ∀ item ∈ items, decode (encode item) = .ok item) :
    asList decode (list (items.map encode)) = .ok items :=
  asItems_map reads

/-- Lists of what is read back are read back. -/
theorem readsBack_list {encode : α → Json} {decode : Json → Except Problem α}
    (reads : ReadsBack encode decode) :
    ReadsBack (fun items => list (items.map encode)) (asList decode) :=
  fun _ => asList_list fun item _ => reads item

/-- Two values in order are read back. -/
theorem asPair_ok {first : Json → Except Problem α} {second : Json → Except Problem β}
    {a b : Json} {x : α} {y : β} (readFirst : first a = .ok x) (readSecond : second b = .ok y) :
    asPair first second (list [a, b]) = .ok (x, y) := by
  simp only [asPair, list, asItems₂, Field.next, Field.required, readFirst, readSecond, bind,
    Except.bind, pure, Except.pure]
  rfl

/-- Three values in order are read back. -/
theorem asTriple_ok {first : Json → Except Problem α} {second : Json → Except Problem β}
    {third : Json → Except Problem γ} {a b c : Json} {x : α} {y : β} {z : γ}
    (readFirst : first a = .ok x) (readSecond : second b = .ok y) (readThird : third c = .ok z) :
    asTriple first second third (list [a, b, c]) = .ok (x, y, z) := by
  simp only [asTriple, list, asItems₃, Field.next, Field.required, readFirst, readSecond,
    readThird, bind, Except.bind, pure, Except.pure]
  rfl

/-! ### Records -/

section

variable {name : String} {first : Field α} {second : Field β} {third : Field γ} {stop : Stop}
  {slot : Option α} {slot' : Option β} {slot'' : Option γ} {rest : List (Key × Json)}
  {a b c : Json} {x : α} {y : β} {z : γ}

/-- Of two fields the first one is read where it is given. -/
theorem asMembers₂_first (read : first.decode a = .ok x) :
    asMembers₂ first second stop none slot' ((.name first.name, a) :: rest) =
      asMembers₂ first second stop (some x) slot' rest := by
  simp only [asMembers₂, readKey, Field.fill, read, bind, Except.bind, if_true]

/-- Of two fields the second one is read where it is given. -/
theorem asMembers₂_second (other : second.name ≠ first.name) (read : second.decode b = .ok y) :
    asMembers₂ first second stop slot none ((.name second.name, b) :: rest) =
      asMembers₂ first second stop slot (some y) rest := by
  simp only [asMembers₂, readKey, Field.fill, read, bind, Except.bind, if_neg other, if_true]

/-- Two fields given by their names are read back. -/
theorem asRecord₂_ok (other : second.name ≠ first.name) (readFirst : first.decode a = .ok x)
    (readSecond : second.decode b = .ok y) :
    asRecord₂ name first second (record [(first.name, a), (second.name, b)]) = .ok (x, y) := by
  rw [record, asRecord₂, List.map_cons, List.map_cons, asMembers₂_first readFirst,
    asMembers₂_second other readSecond]
  rfl

/-- Of three fields the first one is read where it is given. -/
theorem asMembers₃_first (read : first.decode a = .ok x) :
    asMembers₃ first second third stop none slot' slot'' ((.name first.name, a) :: rest) =
      asMembers₃ first second third stop (some x) slot' slot'' rest := by
  simp only [asMembers₃, readKey, Field.fill, read, bind, Except.bind, if_true]

/-- Of three fields the second one is read where it is given. -/
theorem asMembers₃_second (other : second.name ≠ first.name) (read : second.decode b = .ok y) :
    asMembers₃ first second third stop slot none slot'' ((.name second.name, b) :: rest) =
      asMembers₃ first second third stop slot (some y) slot'' rest := by
  simp only [asMembers₃, readKey, Field.fill, read, bind, Except.bind, if_neg other, if_true]

/-- Of three fields the third one is read where it is given. -/
theorem asMembers₃_third (other : third.name ≠ first.name) (another : third.name ≠ second.name)
    (read : third.decode c = .ok z) :
    asMembers₃ first second third stop slot slot' none ((.name third.name, c) :: rest) =
      asMembers₃ first second third stop slot slot' (some z) rest := by
  simp only [asMembers₃, readKey, Field.fill, read, bind, Except.bind, if_neg other,
    if_neg another, if_true]

/-- Three fields given by their names are read back. -/
theorem asRecord₃_ok (other : second.name ≠ first.name) (third_first : third.name ≠ first.name)
    (third_second : third.name ≠ second.name) (readFirst : first.decode a = .ok x)
    (readSecond : second.decode b = .ok y) (readThird : third.decode c = .ok z) :
    asRecord₃ name first second third
      (record [(first.name, a), (second.name, b), (third.name, c)]) = .ok (x, y, z) := by
  rw [record, asRecord₃, List.map_cons, List.map_cons, List.map_cons,
    asMembers₃_first readFirst, asMembers₃_second other readSecond,
    asMembers₃_third third_first third_second readThird]
  rfl

/-- Two fields given by their names are read back beside a third one that is left out. -/
theorem asRecord₃_ok_of_absent (other : second.name ≠ first.name)
    (readFirst : first.decode a = .ok x) (readSecond : second.decode b = .ok y)
    (absent : third.absent = some z) :
    asRecord₃ name first second third (record [(first.name, a), (second.name, b)]) =
      .ok (x, y, z) := by
  have finished : third.finish none = .ok z := by
    rw [Field.finish, absent]
    rfl
  rw [record, asRecord₃, List.map_cons, List.map_cons, asMembers₃_first readFirst,
    asMembers₃_second other readSecond, List.map_nil, asMembers₃, finished]
  rfl

end

end OntologyModules.Json
