import OntologyModules.ClassExpression
import OntologyModules.Json.Decode

/-!
# The written form of expressions

Literals and facets are records. Property expressions, data ranges and class expressions are
alternatives: an object with one member, named for the sort of expression. The universal and the
empty class have no payload and are written as their name. A counting restriction without a
filler is written with a null filler, so that it differs from one whose filler is the universal
class or the range of all literals. The fields of a restriction are written by name; whether an
array of them is read as well is up to the `Json.PayloadForm` of the reader.
-/

namespace OntologyModules

open Json (PayloadForm tagged endAlternative endItems tooFew)

namespace Literal

/-- Writes a literal; an absent language is left out. -/
def encode (literal : Literal) : Json :=
  .record ([("value", .string literal.value), ("datatype", .string literal.datatype)] ++
    match literal.language with
    | none => []
    | some language => [("language", .string language)])

/-- Reads a literal. -/
def decode (json : Json) : Except Problem Literal := do
  let (value, datatype, language) ← json.asRecord₃ "a literal"
    (.required "value" Json.asText) (.required "datatype" Json.asText)
    (.withDefault "language" (Json.asOption Json.asText) none)
  return ⟨value, datatype, language⟩

end Literal

namespace Facet

/-- Writes a facet. -/
def encode (facet : Facet) : Json :=
  .record [("facet", .string facet.facet), ("value", facet.value.encode)]

/-- Reads a facet. -/
def decode (json : Json) : Except Problem Facet := do
  let (facet, value) ← json.asRecord₂ "a facet restriction"
    (.required "facet" Json.asText) (.required "value" Literal.decode)
  return ⟨facet, value⟩

end Facet

namespace Property

/-- The sorts of property expressions. -/
def sorts : List String := ["ObjectProperty", "DataProperty", "InverseOf"]

/-- Writes a property expression. -/
def encode : Property → Json
  | object iri => tagged "ObjectProperty" (.string iri)
  | data iri => tagged "DataProperty" (.string iri)
  | inverse property => tagged "InverseOf" property.encode

/-- Reads a property expression. -/
def decode : Json → Except Problem Property
  | .string name => .error (.mismatch (.bareName sorts name))
  | .object ((.name name, payload) :: more) stop => do
    let property ← match name with
      | "ObjectProperty" => object <$> payload.asText
      | "DataProperty" => data <$> payload.asText
      | "InverseOf" => inverse <$> decode payload
      | _ => .error (.mismatch (.unknownVariant name sorts))
    endAlternative more stop
    return property
  | json => .error json.notAlternative

end Property

namespace DataRange

/-- The sorts of data ranges. -/
def sorts : List String :=
  ["Datatype", "ComplementOf", "IntersectionOf", "UnionOf", "OneOf", "DatatypeRestriction"]

mutual

/-- Writes a data range. -/
def encode : DataRange → Json
  | datatype iri => tagged "Datatype" (.string iri)
  | complement range => tagged "ComplementOf" (encode range)
  | intersection operands => tagged "IntersectionOf" (.list (encodeAll operands))
  | union operands => tagged "UnionOf" (.list (encodeAll operands))
  | oneOf members => tagged "OneOf" (.list (members.map Literal.encode))
  | restriction iri facets =>
    tagged "DatatypeRestriction" (.record
      [("datatype", .string iri), ("facets", .list (facets.map Facet.encode))])

/-- Writes each of the data ranges. -/
def encodeAll : List DataRange → List Json
  | [] => []
  | first :: rest => encode first :: encodeAll rest

end

/-- Reads a restricted datatype. -/
def decodeRestriction (form : PayloadForm) (json : Json) : Except Problem DataRange := do
  form.accept "a datatype restriction" json
  let (iri, facets) ← json.asRecord₂ "a datatype restriction"
    (.required "datatype" Json.asText) (.required "facets" (Json.asList Facet.decode))
  return restriction iri facets

mutual

/-- Reads a data range. -/
def decode (form : PayloadForm) : Json → Except Problem DataRange
  | .string name => .error (.mismatch (.bareName sorts name))
  | .object ((.name name, payload) :: more) stop => do
    let range ← match name with
      | "Datatype" => datatype <$> payload.asText
      | "ComplementOf" => complement <$> decode form payload
      | "IntersectionOf" => intersection <$> decodeList form payload
      | "UnionOf" => union <$> decodeList form payload
      | "OneOf" => oneOf <$> payload.asList Literal.decode
      | "DatatypeRestriction" => decodeRestriction form payload
      | _ => .error (.mismatch (.unknownVariant name sorts))
    endAlternative more stop
    return range
  | json => .error json.notAlternative

/-- Reads a list of data ranges. -/
def decodeList (form : PayloadForm) : Json → Except Problem (List DataRange)
  | .array items stop => decodeItems form stop items
  | json => .error json.notArray

/-- Reads data ranges up to the end of their array. -/
def decodeItems (form : PayloadForm) (stop : Stop) :
    List Json → Except Problem (List DataRange)
  | [] => do
    endItems [] stop
    return []
  | first :: rest => do
    let range ← decode form first
    let ranges ← decodeItems form stop rest
    return range :: ranges

end

end DataRange

namespace ClassExpression

/-- The sorts of restrictions, whose payload is a record. -/
def restrictionSorts : List String :=
  ["SomeValuesFrom", "AllValuesFrom", "HasValue", "MinCardinality", "MaxCardinality",
    "ExactCardinality", "DataSomeValuesFrom", "DataAllValuesFrom", "DataHasValue",
    "DataMinCardinality", "DataMaxCardinality", "DataExactCardinality"]

/-- The sorts of class expressions. -/
def sorts : List String :=
  ["Named", "Thing", "Nothing", "IntersectionOf", "UnionOf", "ComplementOf", "OneOf", "HasSelf"] ++
    restrictionSorts

/-- The name of a restriction by its quantifier, behind what it restricts. -/
def countName (subject : String) : Count → String
  | .atLeast _ => subject ++ "MinCardinality"
  | .atMost _ => subject ++ "MaxCardinality"
  | .exactly _ => subject ++ "ExactCardinality"

/-- The number of a limit. -/
def countNumber : Count → UInt32
  | .atLeast number | .atMost number | .exactly number => number

/-- Writes a counting restriction. -/
def encodeCount (subject : String) (count : Count) (property : Property) (label : String)
    (filler : Json) : Json :=
  tagged (countName subject count) (.record
    [("cardinality", .ofWord (countNumber count)), ("property", property.encode),
      (label, filler)])

/-- Writes a restriction with a filler. -/
def encodeRestriction (subject : String) (quantifier : Quantifier) (property : Property)
    (label : String) (filler : Json) : Json :=
  match quantifier with
  | .existential =>
    tagged (subject ++ "SomeValuesFrom") (.record [("property", property.encode), (label, filler)])
  | .universal =>
    tagged (subject ++ "AllValuesFrom") (.record [("property", property.encode), (label, filler)])
  | .count count => encodeCount subject count property label filler

mutual

/-- Writes a class expression. -/
def encode : ClassExpression → Json
  | named iri => tagged "Named" (.string iri)
  | thing => .string "Thing"
  | nothing => .string "Nothing"
  | complement operand => tagged "ComplementOf" (encode operand)
  | intersection operands => tagged "IntersectionOf" (.list (encodeAll operands))
  | union operands => tagged "UnionOf" (.list (encodeAll operands))
  | oneOf members => tagged "OneOf" (.list (members.map Json.string))
  | object quantifier property filler =>
    encodeRestriction "" quantifier property "class" (encode filler)
  | objectCount count property => encodeCount "" count property "class" .null
  | hasValue property value =>
    tagged "HasValue" (.record [("property", property.encode), ("individual", .string value)])
  | hasSelf property => tagged "HasSelf" property.encode
  | data quantifier property filler =>
    encodeRestriction "Data" quantifier property "range" filler.encode
  | dataCount count property => encodeCount "Data" count property "range" .null
  | dataHasValue property value =>
    tagged "DataHasValue" (.record [("property", property.encode), ("value", value.encode)])

/-- Writes each of the class expressions. -/
def encodeAll : List ClassExpression → List Json
  | [] => []
  | first :: rest => encode first :: encodeAll rest

end

/-- Reads the property and the individual of a value restriction. -/
def decodeHasValue (json : Json) : Except Problem ClassExpression := do
  let (property, value) ← json.asRecord₂ "a value restriction"
    (.required "property" Property.decode) (.required "individual" Json.asText)
  return hasValue property value

/-- Reads the property and the literal of a value restriction. -/
def decodeDataHasValue (json : Json) : Except Problem ClassExpression := do
  let (property, value) ← json.asRecord₂ "a value restriction"
    (.required "property" Property.decode) (.required "value" Literal.decode)
  return dataHasValue property value

/-- Reads the property and the range of a restriction. -/
def decodeDataRestriction (form : PayloadForm) (quantifier : Quantifier) (json : Json) :
    Except Problem ClassExpression := do
  let (property, filler) ← json.asRecord₂ "a restriction"
    (.required "property" Property.decode) (.required "range" (DataRange.decode form))
  return data quantifier property filler

/-- Reads the number, the property and the range of a counting restriction. -/
def decodeDataCount (form : PayloadForm) (count : UInt32 → Count) (json : Json) :
    Except Problem ClassExpression := do
  let (number, property, filler) ← json.asRecord₃ "a counting restriction"
    (.required "cardinality" Json.asWord) (.required "property" Property.decode)
    (.optional "range" (DataRange.decode form))
  match filler with
  | none => return dataCount (count number) property
  | some filler => return data (.count (count number)) property filler

/-- The counting restriction with or without a filler. -/
def ofCount (count : Count) (property : Property) : Option ClassExpression → ClassExpression
  | none => objectCount count property
  | some filler => object (.count count) property filler

/-- The field of a property. -/
def propertyField : Json.Field Property := .required "property" Property.decode

/-- The field of a number. -/
def numberField : Json.Field UInt32 := .required "cardinality" Json.asWord

/-- The value of a filler that has to be given. -/
def finishFiller : Option ClassExpression → Except Problem ClassExpression
  | some filler => .ok filler
  | none => .error (.mismatch (.missingField "class"))

mutual

/-- Reads a class expression. -/
def decode (form : PayloadForm) : Json → Except Problem ClassExpression
  | .string name =>
    match name with
    | "Thing" => .ok thing
    | "Nothing" => .ok nothing
    | name => .error (.mismatch (.bareName sorts name))
  | .object ((.name name, payload) :: more) stop => do
    if restrictionSorts.contains name then form.accept "a restriction" payload
    let expression ← match name with
      | "Named" => named <$> payload.asText
      | "Thing" => (fun _ => thing) <$> payload.asUnit
      | "Nothing" => (fun _ => nothing) <$> payload.asUnit
      | "IntersectionOf" => intersection <$> decodeList form payload
      | "UnionOf" => union <$> decodeList form payload
      | "ComplementOf" => complement <$> decode form payload
      | "OneOf" => oneOf <$> payload.asList Json.asText
      | "SomeValuesFrom" => decodeRestriction form .existential payload
      | "AllValuesFrom" => decodeRestriction form .universal payload
      | "HasValue" => decodeHasValue payload
      | "HasSelf" => hasSelf <$> Property.decode payload
      | "MinCardinality" => decodeCount form .atLeast payload
      | "MaxCardinality" => decodeCount form .atMost payload
      | "ExactCardinality" => decodeCount form .exactly payload
      | "DataSomeValuesFrom" => decodeDataRestriction form .existential payload
      | "DataAllValuesFrom" => decodeDataRestriction form .universal payload
      | "DataHasValue" => decodeDataHasValue payload
      | "DataMinCardinality" => decodeDataCount form .atLeast payload
      | "DataMaxCardinality" => decodeDataCount form .atMost payload
      | "DataExactCardinality" => decodeDataCount form .exactly payload
      | _ => .error (.mismatch (.unknownVariant name sorts))
    endAlternative more stop
    return expression
  | json => .error json.notAlternative

/-- Reads a list of class expressions. -/
def decodeList (form : PayloadForm) : Json → Except Problem (List ClassExpression)
  | .array items stop => decodeItems form stop items
  | json => .error json.notArray

/-- Reads class expressions up to the end of their array. -/
def decodeItems (form : PayloadForm) (stop : Stop) :
    List Json → Except Problem (List ClassExpression)
  | [] => do
    endItems [] stop
    return []
  | first :: rest => do
    let expression ← decode form first
    let expressions ← decodeItems form stop rest
    return expression :: expressions

/-- Reads the property and the class of a restriction. -/
def decodeRestriction (form : PayloadForm) (quantifier : Quantifier) :
    Json → Except Problem ClassExpression
  | .array [] stop => .error (tooFew stop)
  | .array [property] stop => do
    let _ ← Property.decode property
    .error (tooFew stop)
  | .array (property :: filler :: more) stop => do
    let property ← Property.decode property
    let filler ← decode form filler
    endItems more stop
    return object quantifier property filler
  | .object members stop => do
    let (property, filler) ← decodeMembers form stop none none members
    return object quantifier property filler
  | json => .error (json.notRecord "a restriction")

/-- Reads the property and the class of a restriction by their names. -/
def decodeMembers (form : PayloadForm) (stop : Stop) (property : Option Property)
    (filler : Option ClassExpression) :
    List (Key × Json) → Except Problem (Property × ClassExpression)
  | [] => do
    endAlternative [] stop
    let property ← propertyField.finish property
    let filler ← finishFiller filler
    return (property, filler)
  | (key, value) :: rest => do
    let name ← Json.readKey key
    if name = "property" then
      let value ← propertyField.fill property value
      decodeMembers form stop (some value) filler rest
    else if name = "class" then
      if filler.isSome then .error (.mismatch (.duplicateField "class"))
      else
        let value ← decode form value
        decodeMembers form stop property (some value) rest
    else
      Json.passOver value
      decodeMembers form stop property filler rest

/-- Reads the number, the property and the class of a counting restriction. -/
def decodeCount (form : PayloadForm) (count : UInt32 → Count) :
    Json → Except Problem ClassExpression
  | .array [] stop => .error (tooFew stop)
  | .array [number] stop => do
    let _ ← Json.asWord number
    .error (tooFew stop)
  | .array [number, property] stop => do
    let _ ← Json.asWord number
    let _ ← Property.decode property
    .error (tooFew stop)
  | .array (number :: property :: filler :: more) stop => do
    let number ← Json.asWord number
    let property ← Property.decode property
    let filler ← if ← filler.isNull then pure none else some <$> decode form filler
    endItems more stop
    return ofCount (count number) property filler
  | .object members stop => do
    let (number, property, filler) ← decodeCountMembers form stop none none none members
    return ofCount (count number) property filler
  | json => .error (json.notRecord "a counting restriction")

/-- Reads the number, the property and the class of a counting restriction by their names. -/
def decodeCountMembers (form : PayloadForm) (stop : Stop) (number : Option UInt32)
    (property : Option Property) (filler : Option (Option ClassExpression)) :
    List (Key × Json) → Except Problem (UInt32 × Property × Option ClassExpression)
  | [] => do
    endAlternative [] stop
    let number ← numberField.finish number
    let property ← propertyField.finish property
    return (number, property, filler.getD none)
  | (key, value) :: rest => do
    let name ← Json.readKey key
    if name = "cardinality" then
      let value ← numberField.fill number value
      decodeCountMembers form stop (some value) property filler rest
    else if name = "property" then
      let value ← propertyField.fill property value
      decodeCountMembers form stop number (some value) filler rest
    else if name = "class" then
      if filler.isSome then .error (.mismatch (.duplicateField "class"))
      else
        let value ← if ← value.isNull then pure none else some <$> decode form value
        decodeCountMembers form stop number property (some value) rest
    else
      Json.passOver value
      decodeCountMembers form stop number property filler rest

end

end ClassExpression

end OntologyModules
