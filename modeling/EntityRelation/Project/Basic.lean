import EntityRelation.Dialect.Basic
import EntityRelation.Project.Instant
import EntityRelation.Project.Uuid
import EntityRelation.Schema.Wire

/-!
# Projects

A project is a saved schema with the script that was shown next to it.
-/

namespace EntityRelation

open Decoder (slot)

/-- The id of a project: a number given out by a repository, or a UUID from elsewhere. -/
inductive ProjectId where
  | issued (number : Nat)
  | uuid (value : Uuid)
  deriving DecidableEq, Repr, Inhabited

namespace ProjectId

/-- The text of an id. -/
def toText : ProjectId → String
  | issued number => "project-" ++ toString number
  | uuid value => value.toText

/-- The id that a text names, where a repository has given out the numbers up to `issuedSoFar`. A
text that is no id stands for the UUID of zeros. -/
def ofText (issuedSoFar : Nat) (text : String) : ProjectId :=
  match ((List.range issuedSoFar).map fun n => issued (n + 1)).find? (·.toText == text) with
  | some id => id
  | none => uuid ((Uuid.parse text).toOption.getD .nil)

end ProjectId

/-- A saved schema. -/
structure Project where
  id : ProjectId
  name : String
  description : Option String
  prompt : Option String
  dialect : Dialect
  schema : Schema
  script : String
  createdAt : Instant
  updatedAt : Instant
  deriving Inhabited

/-- What a project is created from. -/
structure ProjectDraft where
  name : String
  description : Option String := none
  prompt : Option String := none
  dialect : Dialect := .standard
  schema : Schema := {}
  script : String := ""
  deriving Inhabited

/-- What an update of a project changes; what is absent stays. -/
structure ProjectChange where
  name : Option String := none
  description : Option String := none
  prompt : Option String := none
  dialect : Option Dialect := none
  schema : Option Schema := none
  script : Option String := none
  deriving Inhabited

namespace Project

/-- Whether the project has been updated since it was created. -/
def isTouched (p : Project) : Bool :=
  p.createdAt.isBefore p.updatedAt

def toJson (p : Project) : Json :=
  .object
    [("id", .text p.id.toText), ("name", .text p.name),
      ("description", .ofOption .text p.description), ("prompt", .ofOption .text p.prompt),
      ("dbType", p.dialect.toJson), ("schema", p.schema.toJson), ("sqlCode", .text p.script),
      ("createdAt", p.createdAt.toJson), ("updatedAt", p.updatedAt.toJson)]

def slots : List (Decoder.Slot Project) :=
  [slot "id" .required Uuid.ofJson fun u p => { p with id := .uuid u },
    slot "name" .required Decoder.text fun name p => { p with name },
    slot "description" .optional (Decoder.option Decoder.text)
      fun description p => { p with description },
    slot "prompt" .optional (Decoder.option Decoder.text) fun prompt p => { p with prompt },
    slot "dbType" .required Dialect.ofJson fun dialect p => { p with dialect },
    slot "schema" .required Schema.ofJson fun schema p => { p with schema },
    slot "sqlCode" .required Decoder.text fun script p => { p with script },
    slot "createdAt" .required Instant.ofJson fun createdAt p => { p with createdAt },
    slot "updatedAt" .required Instant.ofJson fun updatedAt p => { p with updatedAt }]

def ofJson : Decoder Project :=
  Decoder.record "struct Project" default slots

end Project

namespace ProjectDraft

def slots : List (Decoder.Slot ProjectDraft) :=
  [slot "name" .required Decoder.text fun name p => { p with name },
    slot "description" .optional (Decoder.option Decoder.text)
      fun description p => { p with description },
    slot "prompt" .optional (Decoder.option Decoder.text) fun prompt p => { p with prompt },
    slot "dbType" .defaulted Dialect.ofJson fun dialect p => { p with dialect },
    slot "schema" .required Schema.ofJson fun schema p => { p with schema },
    slot "sqlCode" .defaulted Decoder.text fun script p => { p with script }]

def ofJson : Decoder ProjectDraft :=
  Decoder.record "struct CreateProject" { name := "" } slots

end ProjectDraft

namespace ProjectChange

def slots : List (Decoder.Slot ProjectChange) :=
  [slot "name" .optional (Decoder.option Decoder.text) fun name p => { p with name },
    slot "description" .optional (Decoder.option Decoder.text)
      fun description p => { p with description },
    slot "prompt" .optional (Decoder.option Decoder.text) fun prompt p => { p with prompt },
    slot "dbType" .optional (Decoder.option Dialect.ofJson) fun dialect p => { p with dialect },
    slot "schema" .optional (Decoder.option Schema.ofJson) fun schema p => { p with schema },
    slot "sqlCode" .optional (Decoder.option Decoder.text) fun script p => { p with script }]

def ofJson : Decoder ProjectChange :=
  Decoder.record "struct UpdateProject" {} slots

end ProjectChange

end EntityRelation
