import OntologyModules.Json.Document

/-!
# Decoding JSON trees

The parts that decoders are made of: texts, counts, lists, alternatives and records. An
alternative is given by its name, or as an object with its name and its payload; a record is
given by its named fields in any order, or by an array of its fields in order. Where a record is
the payload of an alternative, its `PayloadForm` may require names. Each decoder visits the tree in
text order and gives the first problem it meets.
-/

namespace OntologyModules

namespace Json

/-- What a value is found to be, unless it cannot be read. -/
def found : Json → Except Defect Found
  | null => .ok .null
  | bool value => .ok (.boolean value)
  | number value => .ok (.number value)
  | string text => .ok (.text text)
  | array _ _ | buried true _ => .ok .sequence
  | object _ _ | buried false _ => .ok .mapping
  | broken _ read _ => .error read

/-- The problem of a value of another type than expected. -/
def unexpected (expected : String) (json : Json) : Problem :=
  match json.found with
  | .ok found => .mismatch (.wrongType found expected)
  | .error defect => .defect defect

/-- The problem of a value that is neither a name nor an object, where an alternative is
expected. -/
def notAlternative : Json → Problem
  | object ((.broken read _, _) :: _) _ => .defect read
  | broken .text read _ => .defect read
  | _ => .defect .malformed

/-- Nothing but the payload may stand in the object of an alternative. -/
def endAlternative (more : List (Key × Json)) (stop : Stop) : Except Problem Unit :=
  match more, stop with
  | [], .closed => .ok ()
  | [], .cut defect => .error (.defect defect)
  | _ :: _, _ => .error (.defect .malformed)

/-- No more items may stand in an array. -/
def endItems (more : List Json) (stop : Stop) : Except Problem Unit :=
  match more, stop with
  | [], .closed => .ok ()
  | [], .cut defect => .error (.defect defect)
  | _ :: _, _ => .error (.defect .malformed)

/-- The problem of an array that ends before its last field. -/
def tooFew : Stop → Problem
  | .closed => .mismatch .tooFewElements
  | .cut defect => .defect defect

/-- Passes over a value. -/
def passOver (json : Json) : Except Problem Unit :=
  match json.passed with
  | none => .ok ()
  | some defect => .error (.defect defect)

/-- The name of a member. -/
def readKey : Key → Except Problem String
  | .name text => .ok text
  | .broken read _ => .error (.defect read)

/-- Decodes a text. -/
def asText : Json → Except Problem String
  | string text => .ok text
  | json => .error (json.unexpected "a string")

/-- Decodes the null value. -/
def asUnit : Json → Except Problem Unit
  | null => .ok ()
  | json => .error (json.unexpected "unit")

/-- Decodes a count of 32 bits. -/
def asWord : Json → Except Problem UInt32
  | number (.integer value) =>
    if 0 ≤ value ∧ value.toNat < UInt32.size then .ok (UInt32.ofNat value.toNat)
    else .error (.mismatch (.outOfRange (.integer value) "u32"))
  | json => .error (json.unexpected "u32")

/-- Decodes a truth value. -/
def asBool : Json → Except Problem Bool
  | bool value => .ok value
  | json => .error (json.unexpected "a boolean")

/-- Whether a value is null, where it may be. -/
def isNull : Json → Except Problem Bool
  | null => .ok true
  | broken .nullWord read _ => .error (.defect read)
  | _ => .ok false

variable {α β γ : Type}

/-- Decodes a value that may be null. -/
def asOption (decode : Json → Except Problem α) (json : Json) : Except Problem (Option α) := do
  if ← json.isNull then return none else some <$> decode json

/-- Decodes items up to the end of their array. -/
def asItems (decode : Json → Except Problem α) (stop : Stop) : List Json → Except Problem (List α)
  | [] => do
    endItems [] stop
    return []
  | first :: rest => do
    let value ← decode first
    let values ← asItems decode stop rest
    return value :: values

/-- The problem of a value that is no array. -/
def notArray : Json → Problem
  | buried true _ => .defect .malformed
  | json => json.unexpected "a sequence"

/-- Decodes a list. -/
def asList (decode : Json → Except Problem α) : Json → Except Problem (List α)
  | array items stop => asItems decode stop items
  | json => .error json.notArray

/-- Decodes one of several names. -/
def asName (alternatives : List (String × α)) : Json → Except Problem α
  | string name => choose name
  | object ((.name name, payload) :: more) stop => do
    let value ← choose name
    asUnit payload
    endAlternative more stop
    return value
  | json => .error json.notAlternative
where
  /-- The alternative with the given name. -/
  choose (name : String) : Except Problem α :=
    match alternatives.lookup name with
    | some value => .ok value
    | none => .error (.mismatch (.unknownVariant name (alternatives.map (·.1))))

/-! ### Records -/

/-- How one field of a record is decoded. -/
structure Field (α : Type) where
  /-- The name of the field. -/
  name : String
  /-- How its value is decoded. -/
  decode : Json → Except Problem α
  /-- Its value in a record by names that does not give it. -/
  absent : Option α
  /-- Its value in a record by order that ends before it. -/
  missing : Option α

namespace Field

/-- A field that has to be given. -/
def required (name : String) (decode : Json → Except Problem α) : Field α :=
  ⟨name, decode, none, none⟩

/-- A field that may be null, or absent from a record by names. -/
def optional (name : String) (decode : Json → Except Problem α) : Field (Option α) :=
  ⟨name, asOption decode, some none, none⟩

/-- A field with a default value. -/
def withDefault (name : String) (decode : Json → Except Problem α) (value : α) : Field α :=
  ⟨name, decode, some value, some value⟩

/-- Decodes the field, unless it was given before. -/
def fill (field : Field α) (slot : Option α) (json : Json) : Except Problem α :=
  match slot with
  | some _ => .error (.mismatch (.duplicateField field.name))
  | none => field.decode json

/-- The value of the field in a record by names. -/
def finish (field : Field α) (slot : Option α) : Except Problem α :=
  match slot <|> field.absent with
  | some value => .ok value
  | none => .error (.mismatch (.missingField field.name))

/-- Decodes the field from the next item of a record by order, and gives the items left. -/
def next (field : Field α) (stop : Stop) :
    List Json → Except Problem (α × List Json)
  | first :: rest => do
    let value ← field.decode first
    return (value, rest)
  | [] =>
    match stop, field.missing with
    | .closed, some value => .ok (value, [])
    | stop, _ => .error (tooFew stop)

end Field

/-- The problem of a value that is no record. -/
def notRecord (name : String) : Json → Problem
  | buried _ _ => .defect .malformed
  | json => json.unexpected name

/-- Decodes two fields by their order. -/
def asItems₂ (first : Field α) (second : Field β) (items : List Json) (stop : Stop) :
    Except Problem (α × β) := do
  let (a, items) ← first.next stop items
  let (b, items) ← second.next stop items
  endItems items stop
  return (a, b)

/-- Decodes two fields by their names. -/
def asMembers₂ (first : Field α) (second : Field β) (stop : Stop) :
    Option α → Option β → List (Key × Json) → Except Problem (α × β)
  | a, b, [] => do
    endAlternative [] stop
    let a ← first.finish a
    let b ← second.finish b
    return (a, b)
  | a, b, (key, value) :: rest => do
    let name ← readKey key
    if name = first.name then
      let value ← first.fill a value
      asMembers₂ first second stop (some value) b rest
    else if name = second.name then
      let value ← second.fill b value
      asMembers₂ first second stop a (some value) rest
    else
      passOver value
      asMembers₂ first second stop a b rest

/-- Decodes a record of two fields. -/
def asRecord₂ (name : String) (first : Field α) (second : Field β) :
    Json → Except Problem (α × β)
  | array items stop => asItems₂ first second items stop
  | object members stop => asMembers₂ first second stop none none members
  | json => .error (json.notRecord name)

/-- Decodes three fields by their order. -/
def asItems₃ (first : Field α) (second : Field β) (third : Field γ) (items : List Json)
    (stop : Stop) : Except Problem (α × β × γ) := do
  let (a, items) ← first.next stop items
  let (b, items) ← second.next stop items
  let (c, items) ← third.next stop items
  endItems items stop
  return (a, b, c)

/-- Decodes three fields by their names. -/
def asMembers₃ (first : Field α) (second : Field β) (third : Field γ) (stop : Stop) :
    Option α → Option β → Option γ → List (Key × Json) → Except Problem (α × β × γ)
  | a, b, c, [] => do
    endAlternative [] stop
    let a ← first.finish a
    let b ← second.finish b
    let c ← third.finish c
    return (a, b, c)
  | a, b, c, (key, value) :: rest => do
    let name ← readKey key
    if name = first.name then
      let value ← first.fill a value
      asMembers₃ first second third stop (some value) b c rest
    else if name = second.name then
      let value ← second.fill b value
      asMembers₃ first second third stop a (some value) c rest
    else if name = third.name then
      let value ← third.fill c value
      asMembers₃ first second third stop a b (some value) rest
    else
      passOver value
      asMembers₃ first second third stop a b c rest

/-- Decodes a record of three fields. -/
def asRecord₃ (name : String) (first : Field α) (second : Field β) (third : Field γ) :
    Json → Except Problem (α × β × γ)
  | array items stop => asItems₃ first second third items stop
  | object members stop => asMembers₃ first second third stop none none none members
  | json => .error (json.notRecord name)

/-- How a record that is the payload of an alternative may give its fields. -/
inductive PayloadForm where
  /-- By their names. -/
  | named
  /-- By their names or by their order. -/
  | namedOrOrdered
deriving DecidableEq, Repr

namespace PayloadForm

/-- Refuses an array where the fields have to be named. -/
def accept (form : PayloadForm) (expected : String) (payload : Json) : Except Problem Unit :=
  match form, payload with
  | named, array _ _ => .error (payload.unexpected expected)
  | _, _ => .ok ()

/-- A record by names is a payload in every form. -/
@[simp] theorem accept_record (form : PayloadForm) (expected : String)
    (members : List (String × Json)) : form.accept expected (record members) = .ok () := by
  cases form <;> rfl

end PayloadForm

/-- Decodes an array of two values. -/
def asPair (first : Json → Except Problem α) (second : Json → Except Problem β) :
    Json → Except Problem (α × β)
  | array items stop => asItems₂ (.required "0" first) (.required "1" second) items stop
  | json => .error json.notArray

/-- Decodes an array of three values. -/
def asTriple (first : Json → Except Problem α) (second : Json → Except Problem β)
    (third : Json → Except Problem γ) : Json → Except Problem (α × β × γ)
  | array items stop =>
    asItems₃ (.required "0" first) (.required "1" second) (.required "2" third) items stop
  | json => .error json.notArray

end Json

end OntologyModules
