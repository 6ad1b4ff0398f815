import EntityRelation.Dialect.Basic
import EntityRelation.Generation.Intake

/-!
# Asking for a schema

A request describes a schema in words. It asks for constraints unless it says otherwise, and for no
sample data.
-/

namespace EntityRelation

open Decoder (slot)

/-- What the service is asked. -/
structure GenerationRequest where
  prompt : String
  dialect : Dialect
  includeConstraints : Bool := true
  includeSampleData : Bool := false
  deriving DecidableEq, Repr

namespace GenerationRequest

def toJson (r : GenerationRequest) : Json :=
  .object
    [("prompt", .text r.prompt), ("dbType", r.dialect.toJson),
      ("includeConstraints", .bool r.includeConstraints),
      ("includeSampleData", .bool r.includeSampleData)]

def slots : List (Decoder.Slot GenerationRequest) :=
  [slot "prompt" .required Decoder.text fun prompt r => { r with prompt },
    slot "dbType" .required Dialect.ofJson fun dialect r => { r with dialect },
    slot "includeConstraints" .defaulted Decoder.bool
      fun includeConstraints r => { r with includeConstraints },
    slot "includeSampleData" .defaulted Decoder.bool
      fun includeSampleData r => { r with includeSampleData }]

def ofJson : Decoder GenerationRequest :=
  Decoder.record "struct GenerationRequest" ⟨"", .standard, true, false⟩ slots

end GenerationRequest

/-- How a service may answer: with a text, or with the reason why it cannot. -/
inductive ServiceAnswer where
  | response (text : String)
  | unavailable (reason : String)
  deriving DecidableEq, Repr

/-- The schema for a prompt. A blank prompt is not sent. -/
def Generated.ofAnswer (prompt : String) (answer : ServiceAnswer) :
    Except ServiceError Generated :=
  if Text.isBlankText prompt then .error .emptyPrompt
  else
    match answer with
    | .response text => Generated.ofText text
    | .unavailable reason => .error (.unavailable reason)

end EntityRelation
