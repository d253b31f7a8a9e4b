import ColumnChecks.Json.Basic

/-!
# Schemas of JSON values

A schema says what shape a value must have. There is a constructor for each shape
that is wanted here, and a reference holds the schema that it refers to, so a
schema is a tree without names to look up.

`Schema.toJson` writes a schema in the vocabulary of JSON Schema, where a
reference is only a name; the schemas that are referred to are written beside the
whole, as its definitions.
-/

namespace ColumnChecks

/-- The types of JSON values. -/
inductive JsonType where
  | array
  | boolean
  | integer
  | null
  | number
  | object
  | text
  deriving DecidableEq, Repr

namespace JsonType

/-- The word for a type. -/
def name : JsonType → String
  | .array => "array"
  | .boolean => "boolean"
  | .integer => "integer"
  | .null => "null"
  | .number => "number"
  | .object => "object"
  | .text => "string"

/-- Whether a value is of a type. A number is an integer when it has no fraction,
however it is written. -/
def holds : JsonType → Json → Bool
  | .array, .array _ => true
  | .boolean, .bool _ => true
  | .integer, .number (.whole _) => true
  | .integer, .number (.decimal d) => d.isWhole
  | .null, .null => true
  | .number, .number _ => true
  | .object, .object _ => true
  | .text, .text _ => true
  | _, _ => false

end JsonType

/-- A schema. -/
inductive Schema where
  /-- A schema with a name. -/
  | reference (name : String) (target : Schema)
  /-- Values of one of some types, perhaps with a remark on their format. -/
  | typed (types : List JsonType) (format : Option String)
  /-- Some words. -/
  | enumerated (words : List String)
  /-- Arrays. -/
  | list (items : Schema)
  /-- Objects that fit exactly one of some alternatives, if there are any, have some
  members, and whose members of certain names are of certain shapes. Members of
  other names are free. -/
  | record (alternatives : List Schema) (required : List String)
      (properties : List (String × Schema))
  /-- Values that fit all parts. -/
  | every (parts : List Schema)
  /-- Values that fit at least one of some alternatives. -/
  | choice (alternatives : List Schema)
  /-- Values that fit exactly one of some alternatives. -/
  | one (alternatives : List Schema)
  /-- A schema with a description. -/
  | described (text : String) (schema : Schema)
  /-- A schema with a default. -/
  | withDefault (value : Json) (schema : Schema)
  deriving Inhabited

namespace Schema

/-! ### Short forms -/

/-- Values of one type. -/
def ofType (type : JsonType) : Schema := .typed [type] none

/-- Texts, or null. -/
def nullableText : Schema := .typed [.text, .null] none

/-- Objects with some members. -/
def members (required : List String) (properties : List (String × Schema)) : Schema :=
  .record [] required properties

/-! ### Writing -/

/-- A list of words as a JSON array. -/
def wordsJson (words : List String) : Json := .array (words.map .text)

/-- One type as a word, several as an array. -/
def typesJson : List JsonType → Json
  | [type] => .text type.name
  | types => wordsJson (types.map JsonType.name)

/-- A member that is left out when it would be an empty array. -/
def nonemptyMember (name : String) : List Json → List (String × Json)
  | [] => []
  | items => [(name, .array items)]

mutual

/-- The members of a schema as a JSON object. -/
def toMembers : Schema → List (String × Json)
  | .reference name _ => [("$ref", .text ("#/definitions/" ++ name))]
  | .typed types format =>
    ("type", typesJson types) :: (format.map fun word => ("format", Json.text word)).toList
  | .enumerated words => [("type", .text JsonType.text.name), ("enum", wordsJson words)]
  | .list items =>
    [("type", .text JsonType.array.name), ("items", .object items.toMembers)]
  | .record alternatives required properties =>
    ("type", .text JsonType.object.name) :: nonemptyMember "oneOf" (toJsonList alternatives)
      ++ nonemptyMember "required" (required.map .text)
      ++ [("properties", .object (toJsonProperties properties))]
  | .every parts => [("allOf", .array (toJsonList parts))]
  | .choice alternatives => [("anyOf", .array (toJsonList alternatives))]
  | .one alternatives => [("oneOf", .array (toJsonList alternatives))]
  | .described text schema => ("description", .text text) :: schema.toMembers
  | .withDefault value schema => ("default", value) :: schema.toMembers

def toJsonList : List Schema → List Json
  | [] => []
  | schema :: more => .object schema.toMembers :: toJsonList more

def toJsonProperties : List (String × Schema) → List (String × Json)
  | [] => []
  | (name, schema) :: more => (name, .object schema.toMembers) :: toJsonProperties more

end

/-- A schema as a JSON object. -/
def toJson (schema : Schema) : Json := .object schema.toMembers

/-- A whole schema with a title and the schemas it refers to. -/
def toDocument (title : String) (schema : Schema) (definitions : List (String × Schema)) :
    Json :=
  .object ([("$schema", .text "http://json-schema.org/draft-07/schema#"), ("title", .text title)]
    ++ schema.toMembers
    ++ [("definitions", .object (definitions.map fun entry => (entry.1, entry.2.toJson)))])

end Schema

end ColumnChecks
