import EntityRelation.Json.Reader
import EntityRelation.Schema.ForeignKeys
import EntityRelation.Schema.Wire
import EntityRelation.Validation.Validator

/-!
# Taking in generated schemas

A service that turns a description into a schema answers with a text. The text has to be a JSON
object with a schema and its script, and every id in the schema has to resolve; nothing is
repaired. The foreign key view of an accepted schema is the one its relationships give, and every
claim of the received view that they do not bear out becomes a warning.
-/

namespace EntityRelation

/-- Why an answer is not accepted. -/
inductive AnswerFault where
  | notJson
  | notObject
  | missingSchema
  | notArray (key : String)
  | missingScript
  | undecodable (error : DecodeError)
  | referential (issue : Issue)

namespace AnswerFault

/-- The wording of a fault. -/
def message : AnswerFault → String
  | notJson => "not JSON"
  | notObject => "expected a JSON object"
  | missingSchema => "missing 'schema' object"
  | notArray key => "'schema." ++ key ++ "' must be an array"
  | missingScript => "missing 'sqlCode' string"
  | undecodable error => error.message
  | referential issue => issue.message

end AnswerFault

/-- Why a description gives no schema. -/
inductive ServiceError where
  | emptyPrompt
  | unavailable (reason : String)
  | malformedAnswer (fault : AnswerFault)

namespace ServiceError

/-- The wording of an error. -/
def message : ServiceError → String
  | emptyPrompt => "Prompt is required"
  | unavailable reason => "Schema service unavailable: " ++ reason
  | malformedAnswer fault => "Malformed schema response: " ++ fault.message

/-- Whether asking again may help. -/
def isRetryable : ServiceError → Bool
  | emptyPrompt => false
  | _ => true

end ServiceError

/-- A schema that came with its script. -/
structure Generated where
  schema : Schema
  script : String
  /-- Findings that do not keep the schema from being accepted. -/
  warnings : List Issue

namespace Generated

/-- Whether the value is an array. -/
def isArray : Json → Bool
  | .array _ => true
  | _ => false

/-- Whether the value is a text. -/
def isText : Json → Bool
  | .text _ => true
  | _ => false

/-- Whether the value is an object. -/
def isObject : Json → Bool
  | .object _ => true
  | _ => false

/-- The first fault in the outline of an answer. -/
def shapeFault? (answer : Json) : Option AnswerFault :=
  if !isObject answer then some .notObject
  else
    match (answer.member? "schema").filter isObject with
    | none => some .missingSchema
    | some schema =>
      match ["entities", "relationships"].find? fun key => !(schema.member? key).any isArray with
      | some key => some (.notArray key)
      | none => if (answer.member? "sqlCode").any isText then none else some .missingScript

/-- A schema and its script as they are received. -/
structure Envelope where
  schema : Schema := {}
  script : String := ""

def Envelope.slots : List (Decoder.Slot Envelope) :=
  [Decoder.slot "schema" .required Schema.ofJson fun schema e => { e with schema },
    Decoder.slot "sqlCode" .required Decoder.text fun script e => { e with script }]

def Envelope.ofJson : Decoder Envelope :=
  Decoder.record "struct Envelope" {} slots

/-- Whether what a received field claims differs from what the relationships give. A flag alone
claims no more than that there is some reference. -/
def isContradicted (claimed derived : Field) : Bool :=
  match claimed.references with
  | some target => derived.references != some target
  | none => claimed.isForeignKey && !derived.isForeignKey

/-- The claims of the fields of an entity that do not hold. -/
def fieldDrift (received synced : Entity) : List Issue :=
  ((received.fields.zip synced.fields).filter fun (claimed, derived) =>
    isContradicted claimed derived).map fun (claimed, derived) =>
      .foreignKeyMismatch synced.label derived.label claimed.references derived.references

/-- The claims of a received schema that do not hold. -/
def drift (received synced : Schema) : List Issue :=
  (received.entities.zip synced.entities).flatMap fun (before, after) => fieldDrift before after

/-- Accept a received schema, if all its ids resolve. -/
def ofEnvelope (e : Envelope) : Except AnswerFault Generated :=
  let schema := e.schema.syncForeignKeys
  let report := Validator.validate {} schema
  match report.errors.find? (·.isReferential) with
  | some issue => .error (.referential issue)
  | none => .ok ⟨schema, e.script, drift e.schema schema ++ report.errors ++ report.warnings⟩

/-- Accept a JSON value. -/
def ofJson (answer : Json) : Except AnswerFault Generated :=
  match shapeFault? answer with
  | some fault => .error fault
  | none =>
    match Envelope.ofJson answer with
    | .error e => .error (.undecodable e)
    | .ok envelope => ofEnvelope envelope

/-- Accept the text of an answer. -/
def ofText (text : String) : Except ServiceError Generated :=
  match Json.parse? (Text.trimmed text) with
  | none => .error (.malformedAnswer .notJson)
  | some answer => (ofJson answer).mapError .malformedAnswer

end Generated

end EntityRelation
