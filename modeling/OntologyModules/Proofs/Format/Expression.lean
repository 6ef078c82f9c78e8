import OntologyModules.Format.Expression
import OntologyModules.Proofs.Json.ReadBack
import OntologyModules.Proofs.Syntax.Induction

/-!
# Expressions are read back

Literals, facets, property expressions, data ranges and class expressions are read back from
their written forms, whether or not the reader takes arrays for records. Data ranges and class
expressions are read by recursions of their own, which on lists and on records do what the general
decoders do.
-/

namespace OntologyModules

open Json (PayloadForm ReadsBack map_ok tagged endAlternative)

/-- An alternative is read back when its payload is. -/
theorem Json.alternative_ok {α : Type} {decode : Json → Except Problem α} {name : String}
    {payload : Json} {read : Except Problem α} {value : α} (known : read = .ok value)
    (reads : decode (tagged name payload) = (do
      let value ← read
      endAlternative [] .closed
      return value)) : decode (tagged name payload) = .ok value := by
  rw [reads, known]
  rfl

namespace Literal

/-- Literals are read back, those without a language too. -/
theorem readsBack : ReadsBack encode decode := by
  rintro ⟨value, datatype, language⟩
  have fields : Json.asRecord₃ "a literal" (.required "value" Json.asText)
      (.required "datatype" Json.asText)
      (.withDefault "language" (Json.asOption Json.asText) none)
      (encode ⟨value, datatype, language⟩) = .ok (value, datatype, language) := by
    cases language with
    | none => exact Json.asRecord₃_ok_of_absent (by decide) rfl rfl rfl
    | some language => exact Json.asRecord₃_ok (by decide) (by decide) (by decide) rfl rfl rfl
  rw [decode, fields]
  rfl

end Literal

namespace Facet

/-- Facets are read back. -/
theorem readsBack : ReadsBack encode decode := by
  rintro ⟨facet, value⟩
  have fields : Json.asRecord₂ "a facet restriction" (.required "facet" Json.asText)
      (.required "value" Literal.decode) (encode ⟨facet, value⟩) = .ok (facet, value) :=
    Json.asRecord₂_ok (by decide) rfl (Literal.readsBack value)
  rw [decode, fields]
  rfl

end Facet

namespace Property

/-- Property expressions are read back. -/
theorem readsBack : ReadsBack encode decode := by
  intro property
  induction property with
  | object iri => rfl
  | data iri => rfl
  | inverse property ih => exact Json.alternative_ok (map_ok inverse ih) rfl

end Property

namespace DataRange

variable (form : PayloadForm)

/-- Each data range of a list is written in its own form. -/
theorem encodeAll_eq_map (ranges : List DataRange) : encodeAll ranges = ranges.map encode := by
  induction ranges with
  | nil => rfl
  | cons first rest ih => rw [encodeAll, ih, List.map_cons]

/-- The data ranges of an array are read as items are. -/
theorem decodeItems_eq_asItems (stop : Stop) (items : List Json) :
    decodeItems form stop items = Json.asItems (decode form) stop items := by
  induction items with
  | nil => rfl
  | cons first rest ih => rw [decodeItems, Json.asItems, ih]

/-- A list of data ranges is read back when its members are. -/
theorem decodeList_encodeAll {ranges : List DataRange}
    (reads : ∀ range ∈ ranges, decode form range.encode = .ok range) :
    decodeList form (.list (encodeAll ranges)) = .ok ranges := by
  rw [encodeAll_eq_map, Json.list, decodeList, decodeItems_eq_asItems]
  exact Json.asItems_map reads

/-- A restricted datatype is read back from its record. -/
theorem decodeRestriction_record (iri : Iri) (facets : List Facet) :
    decodeRestriction form (.record
      [("datatype", .string iri), ("facets", .list (facets.map Facet.encode))]) =
        .ok (restriction iri facets) := by
  have fields : Json.asRecord₂ "a datatype restriction" (.required "datatype" Json.asText)
      (.required "facets" (Json.asList Facet.decode)) (.record
        [("datatype", .string iri), ("facets", .list (facets.map Facet.encode))]) =
          .ok (iri, facets) :=
    Json.asRecord₂_ok (by decide) rfl (Json.readsBack_list Facet.readsBack facets)
  rw [decodeRestriction, Json.PayloadForm.accept_record, fields]
  rfl

/-- Data ranges are read back. -/
theorem readsBack : ReadsBack encode (decode form) := by
  intro range
  induction range with
  | datatype iri => rfl
  | complement range ih => exact Json.alternative_ok (map_ok complement ih) rfl
  | intersection operands ih =>
    exact Json.alternative_ok (map_ok intersection (decodeList_encodeAll form ih)) rfl
  | union operands ih =>
    exact Json.alternative_ok (map_ok union (decodeList_encodeAll form ih)) rfl
  | oneOf members =>
    exact Json.alternative_ok (map_ok oneOf (Json.readsBack_list Literal.readsBack members)) rfl
  | restriction iri facets =>
    exact Json.alternative_ok (decodeRestriction_record form iri facets) rfl

/-- No data range is written as null. -/
theorem isNull_encode (range : DataRange) : range.encode.isNull = .ok false := by
  cases range <;> rfl

end DataRange

namespace ClassExpression

variable (form : PayloadForm)

/-- Each class expression of a list is written in its own form. -/
theorem encodeAll_eq_map (classes : List ClassExpression) :
    encodeAll classes = classes.map encode := by
  induction classes with
  | nil => rfl
  | cons first rest ih => rw [encodeAll, ih, List.map_cons]

/-- The class expressions of an array are read as items are. -/
theorem decodeItems_eq_asItems (stop : Stop) (items : List Json) :
    decodeItems form stop items = Json.asItems (decode form) stop items := by
  induction items with
  | nil => rfl
  | cons first rest ih => rw [decodeItems, Json.asItems, ih]

/-- A list of class expressions is read back when its members are. -/
theorem decodeList_encodeAll {classes : List ClassExpression}
    (reads : ∀ expression ∈ classes, decode form expression.encode = .ok expression) :
    decodeList form (.list (encodeAll classes)) = .ok classes := by
  rw [encodeAll_eq_map, Json.list, decodeList, decodeItems_eq_asItems]
  exact Json.asItems_map reads

/-- The field of a class that has to be given. -/
def fillerField : Json.Field ClassExpression := .required "class" (decode form)

/-- The field of a class that may be left out. -/
def optionalFillerField : Json.Field (Option ClassExpression) := .optional "class" (decode form)

/-- The members of a restriction are read as a record of two fields. -/
theorem decodeMembers_eq_asMembers₂ (stop : Stop) (property : Option Property)
    (filler : Option ClassExpression) (members : List (Key × Json)) :
    decodeMembers form stop property filler members =
      Json.asMembers₂ propertyField (fillerField form) stop property filler members := by
  induction members generalizing property filler with
  | nil => cases filler <;> rfl
  | cons first rest ih =>
    obtain ⟨key, value⟩ := first
    simp only [decodeMembers, Json.asMembers₂, ih]
    cases filler <;> rfl

/-- The members of a counting restriction are read as a record of three fields. -/
theorem decodeCountMembers_eq_asMembers₃ (stop : Stop) (number : Option UInt32)
    (property : Option Property) (filler : Option (Option ClassExpression))
    (members : List (Key × Json)) :
    decodeCountMembers form stop number property filler members =
      Json.asMembers₃ numberField propertyField (optionalFillerField form) stop number property
        filler members := by
  induction members generalizing number property filler with
  | nil => cases filler <;> rfl
  | cons first rest ih =>
    obtain ⟨key, value⟩ := first
    simp only [decodeCountMembers, Json.asMembers₃, ih]
    cases filler with
    | some filler => rfl
    | none =>
      -- The two readers ask in the same order whether the filler is null.
      have read : (do
          let value ← if ← value.isNull then pure none else some <$> decode form value
          Json.asMembers₃ numberField propertyField (optionalFillerField form) stop number
            property (some value) rest) = (do
          let value ← (optionalFillerField form).fill none value
          Json.asMembers₃ numberField propertyField (optionalFillerField form) stop number
            property (some value) rest) := by
        simp only [optionalFillerField, Json.Field.optional, Json.Field.fill, Json.asOption]
        cases value.isNull with
        | error problem => rfl
        | ok null => cases null <;> rfl
      rw [Option.isSome_none, if_neg Bool.false_ne_true, read]
      rfl

/-- A restriction is read back from its record. -/
theorem decodeRestriction_record (quantifier : Quantifier) (property : Property)
    {filler : ClassExpression} (read : decode form filler.encode = .ok filler) :
    decodeRestriction form quantifier (.record
      [("property", property.encode), ("class", filler.encode)]) =
        .ok (object quantifier property filler) := by
  have fields : Json.asRecord₂ "a restriction" propertyField (fillerField form)
      (.record [("property", property.encode), ("class", filler.encode)]) =
        .ok (property, filler) :=
    Json.asRecord₂_ok (by decide : "class" ≠ "property") (Property.readsBack property) read
  rw [Json.record, Json.asRecord₂] at fields
  rw [Json.record, decodeRestriction, decodeMembers_eq_asMembers₂, fields]
  rfl

/-- A counting restriction is read back from its record, with or without a filler. -/
theorem decodeCount_record (count : UInt32 → Count) (number : UInt32) (property : Property)
    {filler : Option ClassExpression} {written : Json}
    (read : Json.asOption (decode form) written = .ok filler) :
    decodeCount form count (.record
      [("cardinality", .ofWord number), ("property", property.encode), ("class", written)]) =
        .ok (ofCount (count number) property filler) := by
  have fields : Json.asRecord₃ "a counting restriction" numberField propertyField
      (optionalFillerField form) (.record [("cardinality", .ofWord number),
        ("property", property.encode), ("class", written)]) = .ok (number, property, filler) :=
    Json.asRecord₃_ok (by decide) (by decide : "class" ≠ "cardinality")
      (by decide : "class" ≠ "property") (Json.readsBack_word number)
      (Property.readsBack property) read
  rw [Json.record, Json.asRecord₃] at fields
  rw [Json.record, decodeCount, decodeCountMembers_eq_asMembers₃, fields]
  rfl

/-- A restriction to a data range is read back from its record. -/
theorem decodeDataRestriction_record (quantifier : Quantifier) (property : Property)
    (filler : DataRange) :
    decodeDataRestriction form quantifier (.record
      [("property", property.encode), ("range", filler.encode)]) =
        .ok (data quantifier property filler) := by
  have fields : Json.asRecord₂ "a restriction" (.required "property" Property.decode)
      (.required "range" (DataRange.decode form))
      (.record [("property", property.encode), ("range", filler.encode)]) =
        .ok (property, filler) :=
    Json.asRecord₂_ok (by decide : "range" ≠ "property") (Property.readsBack property)
      (DataRange.readsBack form filler)
  rw [decodeDataRestriction, fields]
  rfl

/-- The counting restriction of a data property with or without a filler. -/
def ofDataCount (count : Count) (property : Property) : Option DataRange → ClassExpression
  | none => dataCount count property
  | some filler => data (.count count) property filler

/-- A counting restriction to a data range is read back from its record, with or without a
filler. -/
theorem decodeDataCount_record (count : UInt32 → Count) (number : UInt32) (property : Property)
    {filler : Option DataRange} {written : Json}
    (read : Json.asOption (DataRange.decode form) written = .ok filler) :
    decodeDataCount form count (.record
      [("cardinality", .ofWord number), ("property", property.encode), ("range", written)]) =
        .ok (ofDataCount (count number) property filler) := by
  have fields : Json.asRecord₃ "a counting restriction" (.required "cardinality" Json.asWord)
      (.required "property" Property.decode) (.optional "range" (DataRange.decode form))
      (.record [("cardinality", .ofWord number), ("property", property.encode),
        ("range", written)]) = .ok (number, property, filler) :=
    Json.asRecord₃_ok (by decide) (by decide : "range" ≠ "cardinality")
      (by decide : "range" ≠ "property") (Json.readsBack_word number)
      (Property.readsBack property) read
  rw [decodeDataCount, fields]
  cases filler <;> rfl

/-- A value restriction is read back from its record. -/
theorem decodeHasValue_record (property : Property) (value : Individual) :
    decodeHasValue (.record [("property", property.encode), ("individual", .string value)]) =
      .ok (hasValue property value) := by
  have fields : Json.asRecord₂ "a value restriction" (.required "property" Property.decode)
      (.required "individual" Json.asText)
      (.record [("property", property.encode), ("individual", .string value)]) =
        .ok (property, value) :=
    Json.asRecord₂_ok (by decide) (Property.readsBack property) rfl
  rw [decodeHasValue, fields]
  rfl

/-- A value restriction of a data property is read back from its record. -/
theorem decodeDataHasValue_record (property : Property) (value : Literal) :
    decodeDataHasValue (.record [("property", property.encode), ("value", value.encode)]) =
      .ok (dataHasValue property value) := by
  have fields : Json.asRecord₂ "a value restriction" (.required "property" Property.decode)
      (.required "value" Literal.decode)
      (.record [("property", property.encode), ("value", value.encode)]) =
        .ok (property, value) :=
    Json.asRecord₂_ok (by decide) (Property.readsBack property) (Literal.readsBack value)
  rw [decodeDataHasValue, fields]
  rfl

/-- No class expression is written as null. -/
theorem isNull_encode (expression : ClassExpression) :
    expression.encode.isNull = .ok false := by
  cases expression with
  | object quantifier => cases quantifier <;> rfl
  | data quantifier => cases quantifier <;> rfl
  | _ => rfl

/-- A counting restriction of an object property is read back, with or without a filler. -/
theorem decode_encodeCount (count : Count) (property : Property)
    {filler : Option ClassExpression} {written : Json}
    (read : Json.asOption (decode form) written = .ok filler) :
    decode form (encodeCount "" count property "class" written) =
      .ok (ofCount count property filler) := by
  cases count with
  | atLeast number =>
    exact Json.alternative_ok (decodeCount_record form .atLeast number property read)
      (by cases form <;> rfl)
  | atMost number =>
    exact Json.alternative_ok (decodeCount_record form .atMost number property read)
      (by cases form <;> rfl)
  | exactly number =>
    exact Json.alternative_ok (decodeCount_record form .exactly number property read)
      (by cases form <;> rfl)

/-- A counting restriction of a data property is read back, with or without a filler. -/
theorem decode_encodeDataCount (count : Count) (property : Property)
    {filler : Option DataRange} {written : Json}
    (read : Json.asOption (DataRange.decode form) written = .ok filler) :
    decode form (encodeCount "Data" count property "range" written) =
      .ok (ofDataCount count property filler) := by
  cases count with
  | atLeast number =>
    exact Json.alternative_ok (decodeDataCount_record form .atLeast number property read)
      (by cases form <;> rfl)
  | atMost number =>
    exact Json.alternative_ok (decodeDataCount_record form .atMost number property read)
      (by cases form <;> rfl)
  | exactly number =>
    exact Json.alternative_ok (decodeDataCount_record form .exactly number property read)
      (by cases form <;> rfl)

/-- Class expressions are read back. -/
theorem readsBack : ReadsBack encode (decode form) := by
  intro expression
  induction expression with
  | named iri => rfl
  | thing => rfl
  | nothing => rfl
  | complement operand ih => exact Json.alternative_ok (map_ok complement ih) rfl
  | intersection operands ih =>
    exact Json.alternative_ok (map_ok intersection (decodeList_encodeAll form ih)) rfl
  | union operands ih =>
    exact Json.alternative_ok (map_ok union (decodeList_encodeAll form ih)) rfl
  | oneOf members =>
    exact Json.alternative_ok
      (map_ok oneOf (Json.readsBack_list Json.readsBack_text members)) rfl
  | object quantifier property filler ih =>
    cases quantifier with
    | existential =>
      exact Json.alternative_ok (decodeRestriction_record form .existential property ih)
        (by cases form <;> rfl)
    | universal =>
      exact Json.alternative_ok (decodeRestriction_record form .universal property ih)
        (by cases form <;> rfl)
    | count limit =>
      exact decode_encodeCount form limit property (Json.asOption_ok filler.isNull_encode ih)
  | objectCount count property =>
    -- A filler that is left out is written as null.
    have absent : Json.asOption (decode form) .null = .ok none := rfl
    exact decode_encodeCount form count property absent
  | hasValue property value =>
    exact Json.alternative_ok (decodeHasValue_record property value) (by cases form <;> rfl)
  | hasSelf property =>
    exact Json.alternative_ok (map_ok hasSelf (Property.readsBack property)) rfl
  | data quantifier property filler =>
    cases quantifier with
    | existential =>
      exact Json.alternative_ok
        (decodeDataRestriction_record form .existential property filler)
        (by cases form <;> rfl)
    | universal =>
      exact Json.alternative_ok (decodeDataRestriction_record form .universal property filler)
        (by cases form <;> rfl)
    | count limit =>
      exact decode_encodeDataCount form limit property
        (Json.asOption_ok filler.isNull_encode (DataRange.readsBack form filler))
  | dataCount count property =>
    have absent : Json.asOption (DataRange.decode form) .null = .ok none := rfl
    exact decode_encodeDataCount form count property absent
  | dataHasValue property value =>
    exact Json.alternative_ok (decodeDataHasValue_record property value)
      (by cases form <;> rfl)

end ClassExpression

end OntologyModules
