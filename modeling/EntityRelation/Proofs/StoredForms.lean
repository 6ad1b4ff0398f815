import EntityRelation.Diagram.Wire
import EntityRelation.Generation.Request
import EntityRelation.Proofs.Schema.StoredForm

/-!
# Diagrams, gestures and requests are read back

What is written of a diagram, a gesture or a request is read as the same value again, coordinates
that JSON can write provided. `wire_lossless` says so of these and of schemas, and says for schemas
how far the members may be moved, added or left out.
-/

namespace EntityRelation

open Decoder (Layout member)

@[simp] theorem EdgeStyle.ofJson_toJson (s : EdgeStyle) : EdgeStyle.ofJson s.toJson = .ok s := by
  cases s <;> rfl

@[simp] theorem Cardinality.ofTagged_toJson (c : Cardinality) :
    Cardinality.ofTagged c.toJson = .ok c := by
  cases c <;> rfl

@[simp] theorem Dialect.ofJson_toJson (d : Dialect) : Dialect.ofJson d.toJson = .ok d := by
  cases d <;> rfl

/-! ## Diagrams -/

namespace Diagram

namespace Node

def Content.layout : Layout Content where
  blank := {}
  members :=
    [member "name" .required Decoder.text Content.name fun name c => { c with name },
      member "fields" .required (Decoder.list Field.ofJson) Content.fields
        fun fields c => { c with fields }]

def layout : Layout Node where
  blank := blank
  members :=
    [member "id" .required EntityId.ofJson Node.id fun id n => { n with id },
      member "position" .required Position.ofJson position fun position n => { n with position },
      member "data" .required Content.ofJson (fun n => ⟨n.name, n.fields⟩)
        fun c n => { n with name := c.name, fields := c.fields }]

theorem ofJson_toJson {n : Node} (h : n.position.IsFinite) : ofJson n.toJson = .ok n := by
  have hfields := Decoder.list_ofList fun f (_ : f ∈ n.fields) => f.ofJson_toJson
  have hcontent : Content.ofJson (.object [("name", .text n.name),
      ("fields", .ofList Field.toJson n.fields)]) = .ok ⟨n.name, n.fields⟩ := by
    refine (Content.layout.record_eq_ok_iff "struct EntityNodeData" (by simp)).2 ?_
    simp [Content.layout, member, Decoder.Member.IsRead, Json.lookup_cons_eq_ite, Decoder.text,
      hfields]
  refine Decoder.tagged_object rfl rfl ?_
  refine (layout.record_eq_ok_iff "struct variant DiagramNode::Entity" (by simp)).2 ?_
  simp [layout, member, Decoder.Member.IsRead, Json.lookup_cons_eq_ite, Position.ofJson_toJson h,
    hcontent]

end Node

namespace Edge

def layout : Layout Edge where
  blank := blank
  members :=
    [member "id" .required RelationshipId.ofJson Edge.id fun id e => { e with id },
      member "source" .required EntityId.ofJson source fun source e => { e with source },
      member "target" .required EntityId.ofJson target fun target e => { e with target },
      member "sourceHandle" .required Decoder.text sourceHandle
        fun sourceHandle e => { e with sourceHandle },
      member "targetHandle" .required Decoder.text targetHandle
        fun targetHandle e => { e with targetHandle },
      member "label" .required Cardinality.ofJson label fun label e => { e with label },
      member "style" .required EdgeStyle.ofJson style fun style e => { e with style }]

theorem ofJson_toJson (e : Edge) : ofJson e.toJson = .ok e := by
  refine (layout.record_eq_ok_iff "struct DiagramEdge" (by simp)).2 ?_
  simp [layout, member, Decoder.Member.IsRead, Json.lookup_cons_eq_ite, Decoder.text]

end Edge

/-- All coordinates are numbers that JSON can write. -/
def IsFinite (d : Diagram) : Prop :=
  ∀ n ∈ d.nodes, n.position.IsFinite

def layout : Layout Diagram where
  blank := {}
  members :=
    [member "nodes" .required (Decoder.list Node.ofJson) nodes fun nodes d => { d with nodes },
      member "edges" .required (Decoder.list Edge.ofJson) edges fun edges d => { d with edges }]

theorem ofJson_toJson {d : Diagram} (h : d.IsFinite) : ofJson d.toJson = .ok d := by
  have hnodes := Decoder.list_ofList fun n (hn : n ∈ d.nodes) => Node.ofJson_toJson (h n hn)
  have hedges := Decoder.list_ofList fun e (_ : e ∈ d.edges) => e.ofJson_toJson
  refine (layout.record_eq_ok_iff "struct DiagramGraph" (by simp)).2 ?_
  simp [layout, member, Decoder.Member.IsRead, Json.lookup_cons_eq_ite, hnodes, hedges]

end Diagram

/-! ## Gestures -/

namespace Connection

def layout (cardinality : Decoder Cardinality) : Layout Connection where
  blank := blank
  members :=
    [member "source" .required EntityId.ofJson parent fun parent c => { c with parent },
      member "target" .required EntityId.ofJson child fun child c => { c with child },
      member "sourceField" .defaulted (Decoder.option FieldId.ofJson) parentField
        fun parentField c => { c with parentField },
      member "targetField" .defaulted (Decoder.option FieldId.ofJson) childField
        fun childField c => { c with childField },
      member "kind" .defaulted (Decoder.option cardinality) Connection.cardinality
        fun cardinality c => { c with cardinality }]

theorem ofTagged_toJson (c : Connection) : ofTagged c.toJson = .ok c := by
  refine ((layout Cardinality.ofTagged).record_eq_ok_iff "struct Connection" (by simp)).2 ?_
  have hparent : Decoder.option FieldId.ofJson (.ofOption FieldId.toJson c.parentField) =
      .ok c.parentField := by
    cases c.parentField <;> rfl
  have hchild : Decoder.option FieldId.ofJson (.ofOption FieldId.toJson c.childField) =
      .ok c.childField := by
    cases c.childField <;> rfl
  have hcardinality : Decoder.option Cardinality.ofTagged
      (.ofOption Cardinality.toJson c.cardinality) = .ok c.cardinality := by
    cases c.cardinality with
    | none => rfl
    | some cardinality => cases cardinality <;> rfl
  simp [layout, member, Decoder.Member.IsRead, Json.lookup_cons_eq_ite, hparent, hchild,
    hcardinality]

end Connection

namespace Gesture

/-- All coordinates are numbers that JSON can write. -/
def IsFinite : Gesture → Prop
  | moveNode _ position => position.IsFinite
  | connect _ | deleteEdge _ => True

def Move.layout : Layout Move where
  blank := {}
  members :=
    [member "node_id" .required EntityId.ofJson node fun node m => { m with node },
      member "position" .required Position.ofJson position fun position m => { m with position }]

def deletionLayout : Layout RelationshipId where
  blank := ⟨""⟩
  members :=
    [member "edge_id" .required RelationshipId.ofJson (fun edge => edge) fun edge _ => edge]

theorem ofJson_toJson {g : Gesture} (h : g.IsFinite) : ofJson g.toJson = .ok g := by
  cases g with
  | moveNode node position =>
      have hmove : Decoder.record "struct variant GraphEdit::MoveNode" {} Move.slots
          (.object [("node_id", node.toJson), ("position", position.toJson)]) =
            .ok ⟨node, position⟩ := by
        refine (Move.layout.record_eq_ok_iff "struct variant GraphEdit::MoveNode" (by simp)).2 ?_
        simp [Move.layout, member, Decoder.Member.IsRead, Json.lookup_cons_eq_ite,
          Position.ofJson_toJson h]
      refine Decoder.tagged_object rfl rfl ?_
      exact congrArg (Except.map fun m => moveNode m.node m.position) hmove
  | connect connection =>
      refine Decoder.tagged_object rfl rfl ?_
      exact congrArg (Except.map connect) connection.ofTagged_toJson
  | deleteEdge edge =>
      have hdeletion : Decoder.record "struct variant GraphEdit::DeleteEdge" ⟨""⟩ deletionSlots
          (.object [("edge_id", edge.toJson)]) = .ok edge := by
        refine (deletionLayout.record_eq_ok_iff "struct variant GraphEdit::DeleteEdge"
          (by simp)).2 ?_
        simp [deletionLayout, member, Decoder.Member.IsRead]
      refine Decoder.tagged_object rfl rfl ?_
      exact congrArg (Except.map deleteEdge) hdeletion

end Gesture

/-! ## Requests -/

namespace GenerationRequest

def layout : Layout GenerationRequest where
  blank := ⟨"", .standard, true, false⟩
  members :=
    [member "prompt" .required Decoder.text prompt fun prompt r => { r with prompt },
      member "dbType" .required Dialect.ofJson dialect fun dialect r => { r with dialect },
      member "includeConstraints" .defaulted Decoder.bool includeConstraints
        fun includeConstraints r => { r with includeConstraints },
      member "includeSampleData" .defaulted Decoder.bool includeSampleData
        fun includeSampleData r => { r with includeSampleData }]

theorem ofJson_toJson (r : GenerationRequest) : ofJson r.toJson = .ok r := by
  refine (layout.record_eq_ok_iff "struct GenerationRequest" (by simp)).2 ?_
  simp [layout, member, Decoder.Member.IsRead, Json.lookup_cons_eq_ite, Decoder.text, Decoder.bool]

end GenerationRequest

/-- What is written is read back. A schema is also read from every other value of its form, where
members are moved, added or left out, and from no value where more is left out. -/
theorem wire_lossless :
    (∀ s : Schema, s.IsFinite →
        Schema.ofJson s.toJson = .ok s ∧ s.form false s.toJson ∧
          (∀ j, s.form false j → Schema.ofJson j = .ok s) ∧
          ∀ j, s.form true j → Schema.ofJson j = .ok s → s.form false j) ∧
      (∀ d : Diagram, d.IsFinite → Diagram.ofJson d.toJson = .ok d) ∧
      (∀ g : Gesture, g.IsFinite → Gesture.ofJson g.toJson = .ok g) ∧
      ∀ r : GenerationRequest, GenerationRequest.ofJson r.toJson = .ok r := by
  refine ⟨fun s h => ?_, fun d => Diagram.ofJson_toJson, fun g => Gesture.ofJson_toJson,
    GenerationRequest.ofJson_toJson⟩
  have hmatches := Schema.matches_form h
  exact ⟨hmatches.reads s.form_toJson, s.form_toJson, fun _ => hmatches.reads,
    fun _ => hmatches.only⟩

/-- A column that names its parent, and a relationship that begins and ends there. -/
def users : Schema where
  entities :=
    [⟨⟨"t"⟩, "users",
        [{ id := ⟨"a"⟩, name := "id", dataType := "INT", isNotNull := true,
           references := some ⟨"owners", "key"⟩ }],
        .origin⟩]
  relationships := [⟨⟨"r"⟩, ⟨⟨"t"⟩, ⟨"a"⟩⟩, ⟨⟨"t"⟩, ⟨"a"⟩⟩, .oneToOne⟩]

/-- Members in another order, members that mean nothing, and none of those that may be left out. -/
def loosenedUsers : Json :=
  .object
    [("relationships", .ofList Relationship.toJson users.relationships), ("version", .integer 2),
      ("entities", .array
        [.object
          [("name", .text "users"), ("color", .text "red"), ("id", .text "t"),
            ("fields", .array
              [.object
                [("references", .object
                    [("field", .text "key"), ("index", .null), ("table", .text "owners")]),
                  ("isNotNull", .bool true), ("defaultValue", .null), ("type", .text "INT"),
                  ("id", .text "a"), ("name", .text "id")]])]])]

theorem wire_lossless_users :
    users.form false loosenedUsers ∧ Schema.ofJson loosenedUsers = .ok users ∧
      Diagram.ofJson (Diagram.ofSchema users).toJson = .ok (Diagram.ofSchema users) ∧
      Gesture.ofJson (Gesture.moveNode ⟨"t"⟩ .origin).toJson = .ok (.moveNode ⟨"t"⟩ .origin) := by
  have horigin : Position.origin.IsFinite := ⟨by decide, by decide⟩
  have hfinite : users.IsFinite := List.forall_mem_singleton.2 horigin
  have hdiagram : (Diagram.ofSchema users).IsFinite := List.forall_mem_singleton.2 horigin
  have hform : users.form false loosenedUsers := by
    simp [loosenedUsers, users, Schema.form, Entity.form, Field.form, ColumnName.form,
      Relationship.form, Relationship.toJson, Json.ofList, Json.Form.optional,
      Json.lookup_cons_eq_ite, EntityId.toJson, FieldId.toJson]
  exact ⟨hform, (wire_lossless.1 users hfinite).2.2.1 loosenedUsers hform,
    wire_lossless.2.1 (Diagram.ofSchema users) hdiagram,
    wire_lossless.2.2.1 (.moveNode ⟨"t"⟩ .origin) horigin⟩

end EntityRelation
