import EntityRelation.Edit.Operation
import EntityRelation.Proofs.DefinitionOrder
import EntityRelation.Proofs.Diagram.Conversion
import EntityRelation.Proofs.Edit.Reversal

/-!
# What a gesture changes on a diagram

Dragging a node moves this node. Deleting an edge takes this edge away, and drawing an edge adds one
behind all the others, between columns that were asked for or else are the first keys of their
tables. Besides, the foreign key view of the column where the edge ends may change, and nothing else
(`gesture_frame`). An edge is refused just when one of its ends cannot be had, or there is an edge
between the two already (`Diagram.Refuses`).
-/

namespace EntityRelation

namespace Diagram

variable {d d' : Diagram} {node : EntityId}

/-! ## The words for a change -/

/-- The node with the foreign key view of the column at an end replaced. -/
def Node.withView (p : Endpoint) (target : Option ColumnName) (n : Node) : Node :=
  { n with
    fields := n.fields.map fun f =>
      if (⟨n.id, f.id⟩ : Endpoint) = p then Schema.viewField target f else f }

/-- The column where an edge ends. -/
def Edge.targetEnd (e : Edge) : Endpoint :=
  ⟨e.target, e.targetField⟩

/-- A column of a node to draw an edge to: the one that is asked for, or the first key column. -/
inductive Picks (d : Diagram) (node : EntityId) : Option FieldId → FieldId → Prop
  | asked {n : Node} {f : Field} {id : FieldId} (hn : n ∈ d.nodes) (hid : n.id = node)
      (hf : f ∈ n.fields) (hfield : f.id = id) : Picks d node (some id) id
  | firstKey {n : Node} {f : Field} {before after : List Field} (hn : n ∈ d.nodes)
      (hid : n.id = node) (hfields : n.fields = before ++ f :: after) (hkey : f.isKey = true)
      (hfirst : ∀ g ∈ before, g.isKey = false) : Picks d node none f.id

/-- There is no such column: the node is unknown, it has no field with the id that is asked for, or
no field is asked for and it has no key column. -/
inductive Lacks (d : Diagram) (node : EntityId) : Option FieldId → Prop
  | node (field : Option FieldId) (hn : ∀ n ∈ d.nodes, n.id ≠ node) : Lacks d node field
  | field {n : Node} {id : FieldId} (hn : n ∈ d.nodes) (hid : n.id = node)
      (hfields : ∀ f ∈ n.fields, f.id ≠ id) : Lacks d node (some id)
  | key {n : Node} (hn : n ∈ d.nodes) (hid : n.id = node)
      (hfields : ∀ f ∈ n.fields, f.isKey = false) : Lacks d node none

/-- An end of the edge cannot be had, or there is an edge between the two ends. -/
inductive Refuses (d : Diagram) (c : Connection) : Prop
  | source (h : d.Lacks c.parent c.parentField)
  | target (h : d.Lacks c.child c.childField)
  | drawn {e : Edge} (he : e ∈ d.edges) (hsource : e.source = c.parent)
      (hsourceField : d.Picks c.parent c.parentField e.sourceField) (htarget : e.target = c.child)
      (htargetField : d.Picks c.child c.childField e.targetField)

/-- A node has been dragged to a position. -/
structure Moved (d : Diagram) (node : EntityId) (position : Position) (d' : Diagram) : Prop where
  known : ∃ n ∈ d.nodes, n.id = node
  nodes : d'.nodes = d.nodes.map fun n => if n.id = node then { n with position } else n
  edges : d'.edges = d.edges

/-- An edge has been deleted. Its target may have another foreign key view. -/
structure Disconnected (d : Diagram) (edge : RelationshipId) (e : Edge) (d' : Diagram) : Prop where
  deleted : d.edges.filter (·.id == edge) = [e]
  edges : d'.edges = d.edges.filter fun e => !(e.id == edge)
  nodes : ∃ target, d'.nodes = d.nodes.map (Node.withView e.targetEnd target)

/-- An edge has been drawn. Its target may have another foreign key view, unless it was a foreign
key before. -/
structure Connected (d : Diagram) (c : Connection) (e : Edge) (d' : Diagram) : Prop where
  edges : d'.edges = d.edges ++ [e]
  source : e.source = c.parent
  sourceField : d.Picks c.parent c.parentField e.sourceField
  target : e.target = c.child
  targetField : d.Picks c.child c.childField e.targetField
  label : e.label = c.cardinality.getD .oneToMany
  style : e.style = .ofCardinality e.label
  nodes : ∃ target, d'.nodes = d.nodes.map (Node.withView e.targetEnd target)
  unchanged : ∀ n ∈ d.nodes, ∀ f ∈ n.fields, (⟨n.id, f.id⟩ : Endpoint) = e.targetEnd →
    f.isForeignKey = true → d'.nodes = d.nodes

/-! ## Edges and relationships -/

theorem sourceField_ofRelationship (r : Relationship) :
    (Edge.ofRelationship r).sourceField = r.parent.field :=
  congrArg (fun r : Relationship => r.parent.field) (toRelationship_ofRelationship r)

theorem targetField_ofRelationship (r : Relationship) :
    (Edge.ofRelationship r).targetField = r.child.field :=
  congrArg (fun r : Relationship => r.child.field) (toRelationship_ofRelationship r)

theorem targetEnd_ofRelationship (r : Relationship) :
    (Edge.ofRelationship r).targetEnd = r.child :=
  congrArg Relationship.child (toRelationship_ofRelationship r)

/-! ## The view of one column -/

variable {s u : Schema}

/-- Where only one column can have another view, recomputing the view changes the nodes there. -/
theorem nodes_syncForeignKeys (hs : s.Closed) (hentities : u.entities = s.entities) {q : Endpoint}
    (hview : ∀ p, p ≠ q → u.view p = s.view p) :
    (ofSchema u.syncForeignKeys).nodes = (ofSchema s).nodes.map (Node.withView q (u.view q)) := by
  have hids : u.DistinctIds := ⟨hentities ▸ hs.entityIds, hentities ▸ hs.fieldIds⟩
  rw [Schema.syncForeignKeys_eq hids, ofSchema, Schema.mapEnds, hentities, ofSchema, List.map_map,
    List.map_map]
  refine List.map_congr_left fun e he => ?_
  have hfields : ∀ f ∈ e.fields, Schema.viewField (u.view ⟨e.id, f.id⟩) f =
      if (⟨e.id, f.id⟩ : Endpoint) = q then Schema.viewField (u.view q) f else f := by
    intro f hf
    by_cases hend : (⟨e.id, f.id⟩ : Endpoint) = q
    · rw [if_pos hend, hend]
    · rw [if_neg hend, hview _ hend]
      exact (Schema.syncForeignKeys_eq_self_iff ⟨hs.entityIds, hs.fieldIds⟩).1 hs.synced e he f hf
  exact congrArg (fun fields => (⟨e.id, e.position, e.name, fields⟩ : Node))
    (List.map_congr_left hfields)

/-- A view that is there already changes nothing. -/
theorem map_withView_eq_self (hs : s.Closed) (q : Endpoint) :
    (ofSchema s).nodes.map (Node.withView q (s.view q)) = (ofSchema s).nodes := by
  rw [← nodes_syncForeignKeys hs rfl fun _ _ => rfl, hs.synced]

/-! ## Dragging a node -/

theorem moved_of_moveEntity (hs : s.Closed) {position : Position} {t : Schema}
    (h : s.moveEntity node position = .ok t) :
    Moved (ofSchema s) node position (ofSchema t) := by
  obtain ⟨e, he⟩ := Schema.exists_entity?_of_moveEntity h
  obtain rfl := Schema.moveEntity_eq_ok h
  refine ⟨⟨Node.ofEntity e, List.mem_map_of_mem (Schema.mem_of_entity? he),
    Schema.id_of_entity? he⟩, ?_, rfl⟩
  rw [ofSchema, Schema.updateEntity_entities hs.toReferential, ofSchema, List.map_map,
    List.map_map]
  refine List.map_congr_left fun e' _ => ?_
  by_cases hid : e'.id = node
  · simp [Node.ofEntity, hid]
  · simp [Node.ofEntity, hid]

/-! ## Deleting an edge -/

theorem disconnected_of_deleteRelationship (hs : s.Closed) {edge : RelationshipId}
    {r : Relationship} {t : Schema} (h : s.deleteRelationship edge = .ok (r, t)) :
    Disconnected (ofSchema s) edge (Edge.ofRelationship r) (ofSchema t) := by
  obtain ⟨hfind, rfl⟩ := Schema.deleteRelationship_eq_ok h
  have hmem : r ∈ s.relationships := List.mem_of_find?_eq_some hfind
  have hid : r.id = edge := by simpa using List.find?_some hfind
  have hrest : (s.withoutRelationship edge).relationships =
      s.relationships.filter fun r => !(r.id == edge) :=
    eraseFirst_key_eq_filter hs.relationshipIds edge
  have hresolves : ∀ r' ∈ (s.withoutRelationship edge).relationships,
      ((s.withoutRelationship edge).resolve? r').isSome :=
    (hs.toReferential.withoutRelationship edge).resolves
  refine ⟨?_, ?_, (s.withoutRelationship edge).view r.child, ?_⟩
  · have hone : s.relationships.filter (·.id == edge) = [r] :=
      hid ▸ filter_key_eq_singleton hs.relationshipIds hmem
    rw [ofSchema, List.filter_map]
    exact congrArg (List.map Edge.ofRelationship) hone
  · rw [ofSchema, Schema.relationships_syncForeignKeys, hrest, ofSchema, List.filter_map]
    rfl
  · rw [targetEnd_ofRelationship]
    refine nodes_syncForeignKeys (u := s.withoutRelationship edge) hs rfl fun p hp => ?_
    rw [Schema.view_eq_bind hresolves, Schema.view_eq_bind hs.resolves, hrest, List.find?_filter]
    refine Eq.trans (Option.bind_congr fun r' _ => rfl) (congrArg (Option.bind · s.source?) ?_)
    refine List.find?_congr fun r' hr' => ?_
    by_cases hedge : r'.id = edge
    · obtain rfl : r' = r :=
        List.inj_on_of_nodup_map hs.relationshipIds hr' hmem (hedge.trans hid.symm)
      simp [hp.symm]
    · rw [Bool.decide_and, Bool.decide_eq_true, Bool.decide_eq_true, beq_false_of_ne hedge,
        Bool.not_false, Bool.true_and]

/-! ## Drawing an edge -/

variable {field : Option FieldId}

/-- An end can be had just when there is a column to pick. -/
theorem connectionEnd_cases (s : Schema) (node : EntityId) (field : Option FieldId) :
    (∃ rejection, s.connectionEnd node field = .error rejection ∧ (ofSchema s).Lacks node field) ∨
      ∃ id, s.connectionEnd node field = .ok ⟨node, id⟩ ∧ (ofSchema s).Picks node field id := by
  rw [Schema.connectionEnd, Schema.entityOrReject]
  cases he : s.entity? node with
  | none =>
      refine Or.inl ⟨_, rfl, .node field fun n hn hid => ?_⟩
      obtain ⟨e, hmem, rfl⟩ := List.mem_map.1 hn
      exact List.find?_eq_none.1 he e hmem (beq_iff_eq.2 hid)
  | some e =>
      have hnode : Node.ofEntity e ∈ (ofSchema s).nodes :=
        List.mem_map_of_mem (Schema.mem_of_entity? he)
      have hid : (Node.ofEntity e).id = node := Schema.id_of_entity? he
      simp only [bind, Except.bind]
      cases field with
      | some id =>
          cases hf : e.field? id with
          | none =>
              refine Or.inl ⟨.unknownField node id, by simp [hf]; rfl, .field hnode hid ?_⟩
              exact fun f hmem hfid => List.find?_eq_none.1 hf f hmem (beq_iff_eq.2 hfid)
          | some f =>
              exact Or.inr ⟨id, by simp [hf]; rfl,
                .asked hnode hid (Entity.mem_of_field? hf) (Entity.id_of_field? hf)⟩
      | none =>
          cases hf : e.firstKeyField? with
          | none =>
              refine Or.inl ⟨_, rfl, .key hnode hid fun f hmem => ?_⟩
              simpa using List.find?_eq_none.1 hf f hmem
          | some f =>
              obtain ⟨hkey, before, after, hfields, hfirst⟩ := List.find?_eq_some_iff_append.1 hf
              exact Or.inr ⟨f.id, rfl, .firstKey hnode hid hfields hkey fun g hg => by
                simpa using hfirst g hg⟩

/-- Where ids are distinct, there is at most one column to pick. -/
theorem Picks.unique (hids : (d.nodes.map (·.id)).Nodup) {a b : FieldId}
    (ha : d.Picks node field a) (hb : d.Picks node field b) : a = b := by
  cases ha with
  | asked =>
      cases hb
      rfl
  | firstKey hn hid hfields hkey hfirst =>
      cases hb with
      | firstKey hn' hid' hfields' hkey' hfirst' =>
          obtain rfl := List.inj_on_of_nodup_map hids hn hn' (hid.trans hid'.symm)
          have hfind := List.find?_eq_some_iff_append.2
            ⟨hkey, _, _, hfields, fun g hg => by simpa using hfirst g hg⟩
          have hfind' := List.find?_eq_some_iff_append.2
            ⟨hkey', _, _, hfields', fun g hg => by simpa using hfirst' g hg⟩
          exact congrArg Field.id (Option.some.inj (hfind.symm.trans hfind'))

theorem Lacks.not_picks (hids : (d.nodes.map (·.id)).Nodup) (hlacks : d.Lacks node field)
    {id : FieldId} (hpicks : d.Picks node field id) : False := by
  cases hlacks with
  | node field hn =>
      cases hpicks with
      | asked hmem hid => exact hn _ hmem hid
      | firstKey hmem hid => exact hn _ hmem hid
  | field hn hid hfields =>
      cases hpicks with
      | asked hmem hid' hf hfield =>
          obtain rfl := List.inj_on_of_nodup_map hids hn hmem (hid.trans hid'.symm)
          exact hfields _ hf hfield
  | key hn hid hfields =>
      cases hpicks with
      | firstKey hmem hid' hfields' hkey hfirst =>
          obtain rfl := List.inj_on_of_nodup_map hids hn hmem (hid.trans hid'.symm)
          have hno := hfields _ (hfields' ▸ List.mem_append_right _ List.mem_cons_self)
          rw [hkey] at hno
          cases hno

/-- A new relationship says what its target references, if no other one does. -/
theorem view_pushRelationship (hs : s.Closed) {r : Relationship}
    (hends : (s.endpoint? r.parent).isSome ∧ (s.endpoint? r.child).isSome) (p : Endpoint) :
    (s.pushRelationship r).view p =
      ((s.relationships.find? (·.child == p)).or ([r].find? (·.child == p))).bind s.source? := by
  have hresolves : ∀ r' ∈ (s.pushRelationship r).relationships,
      ((s.pushRelationship r).resolve? r').isSome := by
    intro r' hr'
    rcases List.mem_append.1 hr' with hold | hnew
    · exact hs.resolves r' hold
    · rw [List.mem_singleton.1 hnew]
      exact (Schema.resolve?_isSome_iff r).2 hends
  rw [Schema.view_eq_bind hresolves, Schema.pushRelationship, List.find?_append]
  rfl

theorem view_pushRelationship_of_ne (hs : s.Closed) {r : Relationship}
    (hends : (s.endpoint? r.parent).isSome ∧ (s.endpoint? r.child).isSome) {p : Endpoint}
    (hp : p ≠ r.child) : (s.pushRelationship r).view p = s.view p := by
  have hnew : [r].find? (·.child == p) = none := by simp [hp.symm]
  rw [view_pushRelationship hs hends, hnew, Option.or_none, Schema.view_eq_bind hs.resolves]

theorem view_pushRelationship_of_isSome (hs : s.Closed) {r : Relationship}
    (hends : (s.endpoint? r.parent).isSome ∧ (s.endpoint? r.child).isSome) {p : Endpoint}
    (hp : (s.view p).isSome) : (s.pushRelationship r).view p = s.view p := by
  rw [Schema.view_eq_bind hs.resolves] at hp
  rw [view_pushRelationship hs hends, Schema.view_eq_bind hs.resolves]
  cases hfind : s.relationships.find? (·.child == p) with
  | none =>
      rw [hfind] at hp
      cases hp
  | some r' => rfl

theorem connected_of_connect (hs : s.Closed) {c : Connection} {id : RelationshipId} {t : Schema}
    (h : s.connect c id = .ok t) :
    ∃ e : Edge, e.id = id ∧ Connected (ofSchema s) c e (ofSchema t) := by
  rw [Schema.connect] at h
  rcases connectionEnd_cases s c.parent c.parentField with ⟨_, hp, -⟩ | ⟨parentField, hp, hsource⟩
  · rw [hp] at h
    cases h
  rcases connectionEnd_cases s c.child c.childField with ⟨_, hc, -⟩ | ⟨childField, hc, htarget⟩
  · rw [hp, hc] at h
    cases h
  simp only [hp, hc, bind, Except.bind] at h
  split at h
  · cases h
  set r : Relationship :=
    ⟨id, ⟨c.parent, parentField⟩, ⟨c.child, childField⟩, c.cardinality.getD .standard⟩
  obtain rfl := Except.ok.inj h
  have hends : (s.endpoint? r.parent).isSome ∧ (s.endpoint? r.child).isSome :=
    ⟨Schema.connectionEnd_eq_ok hp, Schema.connectionEnd_eq_ok hc⟩
  have hnodes := nodes_syncForeignKeys (u := s.pushRelationship r) (q := r.child) hs rfl
    fun p hp => view_pushRelationship_of_ne hs hends hp
  refine ⟨Edge.ofRelationship r, rfl, ?_⟩
  constructor
  case edges =>
    have hedges := Schema.relationships_syncForeignKeys (s.pushRelationship r)
    have hmap : (ofSchema (s.pushRelationship r).syncForeignKeys).edges =
        (s.relationships ++ [r]).map Edge.ofRelationship :=
      congrArg (List.map Edge.ofRelationship) hedges
    exact hmap.trans List.map_append
  case source => rfl
  case sourceField =>
    rw [sourceField_ofRelationship]
    exact hsource
  case target => rfl
  case targetField =>
    rw [targetField_ofRelationship]
    exact htarget
  case label => rfl
  case style => rfl
  case nodes =>
    rw [targetEnd_ofRelationship]
    exact ⟨_, hnodes⟩
  case unchanged =>
    rintro n hn f hf hend hkey
    rw [targetEnd_ofRelationship] at hend
    obtain ⟨e, he, rfl⟩ := List.mem_map.1 hn
    have hview : (s.view r.child).isSome := by
      rw [hs.synced.isForeignKey_eq ⟨hs.entityIds, hs.fieldIds⟩ he hf] at hkey
      exact hend ▸ hkey
    rw [← map_withView_eq_self hs r.child, ← view_pushRelationship_of_isSome hs hends hview]
    exact hnodes

theorem connect_eq_error_iff (hs : s.Closed) {c : Connection} (id : RelationshipId) :
    (∃ rejection, s.connect c id = .error rejection) ↔ (ofSchema s).Refuses c := by
  have hids : ((ofSchema s).nodes.map (·.id)).Nodup := by
    rw [ofSchema, List.map_map]
    exact hs.entityIds
  rcases connectionEnd_cases s c.parent c.parentField with ⟨_, hp, hlacks⟩ | ⟨a, hp, hsource⟩
  · refine iff_of_true ?_ (.source hlacks)
    rw [Schema.connect, hp]
    exact ⟨_, rfl⟩
  rcases connectionEnd_cases s c.child c.childField with ⟨_, hc, hlacks⟩ | ⟨b, hc, htarget⟩
  · refine iff_of_true ?_ (.target hlacks)
    rw [Schema.connect, hp, hc]
    exact ⟨_, rfl⟩
  have hdrawn : s.joins ⟨c.parent, a⟩ ⟨c.child, b⟩ = true ↔ (ofSchema s).Refuses c := by
    rw [Schema.joins, List.any_eq_true]
    constructor
    · rintro ⟨r, hr, hjoins⟩
      rw [Bool.and_eq_true, beq_iff_eq, beq_iff_eq] at hjoins
      refine .drawn (List.mem_map_of_mem hr) (congrArg Endpoint.entity hjoins.1) ?_
        (congrArg Endpoint.entity hjoins.2) ?_
      · rw [sourceField_ofRelationship, hjoins.1]
        exact hsource
      · rw [targetField_ofRelationship, hjoins.2]
        exact htarget
    · intro hrefuses
      cases hrefuses with
      | source hlacks => exact (hlacks.not_picks hids hsource).elim
      | target hlacks => exact (hlacks.not_picks hids htarget).elim
      | drawn he hsource' hsourceField htarget' htargetField =>
          obtain ⟨r, hr, rfl⟩ := List.mem_map.1 he
          rw [sourceField_ofRelationship] at hsourceField
          rw [targetField_ofRelationship] at htargetField
          refine ⟨r, hr, ?_⟩
          rw [Bool.and_eq_true, beq_iff_eq, beq_iff_eq]
          exact ⟨congrArg₂ Endpoint.mk hsource' (hsourceField.unique hids hsource),
            congrArg₂ Endpoint.mk htarget' (htargetField.unique hids htarget)⟩
  rw [← hdrawn, Schema.connect]
  simp only [hp, hc, bind, Except.bind]
  split
  · next hjoins => exact iff_of_true ⟨_, rfl⟩ hjoins
  · next hjoins =>
    refine iff_of_false ?_ hjoins
    rintro ⟨_, h⟩
    cases h

/-- An accepted gesture changes what it names and the foreign key view of the column where the edge
ends, and nothing else of the diagram. The id of a new edge is the next one of the supply. An edge
is refused exactly when an end cannot be had or the ends are joined already. -/
theorem gesture_frame (hs : s.Closed) (ids : IdSupply) :
    (∀ node position p, (Gesture.moveNode node position).operation.perform s ids = .ok p →
      Moved (ofSchema s) node position (ofSchema p.schema)) ∧
    (∀ edge p, (Gesture.deleteEdge edge).operation.perform s ids = .ok p →
      ∃ e, Disconnected (ofSchema s) edge e (ofSchema p.schema)) ∧
    (∀ c p, (Gesture.connect c).operation.perform s ids = .ok p →
      ∃ e, Connected (ofSchema s) c e (ofSchema p.schema) ∧ e.id = ids.relationship ∧
        (ids.Fresh s → ∀ e' ∈ (ofSchema s).edges, e'.id ≠ e.id)) ∧
    ∀ c, (∃ rejection, (Gesture.connect c).operation.perform s ids = .error rejection) ↔
      (ofSchema s).Refuses c := by
  refine ⟨fun node position p h => ?_, fun edge p h => ?_, fun c p h => ?_, fun c => ?_⟩
  · obtain ⟨t, ht, rfl⟩ := exists_of_map_eq_ok h
    exact moved_of_moveEntity hs ht
  · obtain ⟨⟨r, t⟩, ht, rfl⟩ := exists_of_map_eq_ok h
    exact ⟨_, disconnected_of_deleteRelationship hs ht⟩
  · obtain ⟨t, ht, rfl⟩ := exists_of_map_eq_ok h
    obtain ⟨e, hid, hconnected⟩ := connected_of_connect hs ht
    refine ⟨e, hconnected, hid, fun hfresh e' he' => ?_⟩
    obtain ⟨r, hr, rfl⟩ := List.mem_map.1 he'
    rw [hid]
    exact hfresh.relationship r hr
  · rw [← connect_eq_error_iff hs ids.relationship]
    change (∃ rejection, Except.map _ (s.connect c ids.relationship) = .error rejection) ↔ _
    cases s.connect c ids.relationship with
    | error rejection => exact iff_of_true ⟨_, rfl⟩ ⟨_, rfl⟩
    | ok t =>
        refine iff_of_false ?_ ?_
        · rintro ⟨_, h⟩
          cases h
        · rintro ⟨_, h⟩
          cases h

/-- An edge to a column of the shop that is a foreign key already changes no node, and an edge
between two columns that are joined is refused. -/
theorem gesture_frame_shop :
    Schema.shop.syncForeignKeys.Closed ∧
      (∃ p, (Gesture.connect ⟨⟨"e1"⟩, ⟨"e2"⟩, none, some ⟨"f2"⟩, none⟩).operation.perform
          Schema.shop.syncForeignKeys {} = .ok p ∧
        (ofSchema p.schema).nodes = (ofSchema Schema.shop.syncForeignKeys).nodes) ∧
      (∃ p e, (Gesture.deleteEdge ⟨"r2"⟩).operation.perform Schema.shop.syncForeignKeys {} = .ok p ∧
        Disconnected (ofSchema Schema.shop.syncForeignKeys) ⟨"r2"⟩ e (ofSchema p.schema)) ∧
      (ofSchema Schema.shop.syncForeignKeys).Refuses
        ⟨⟨"e2"⟩, ⟨"e1"⟩, none, some ⟨"f2"⟩, some .manyToMany⟩ := by
  have href : Schema.shop.Referential := ⟨by decide, by decide, by decide, by decide⟩
  have hs : Schema.shop.syncForeignKeys.Closed := href.closed_syncForeignKeys
  obtain ⟨-, hdelete, hconnect, hrefused⟩ := gesture_frame hs {}
  refine ⟨hs, ?_, ?_, (hrefused _).1 ⟨.duplicateRelationship, rfl⟩⟩
  · obtain ⟨p, hp⟩ : ∃ p, (Gesture.connect ⟨⟨"e1"⟩, ⟨"e2"⟩, none, some ⟨"f2"⟩, none⟩).operation.perform
        Schema.shop.syncForeignKeys {} = .ok p := ⟨_, rfl⟩
    obtain ⟨e, hconnected, -, -⟩ := hconnect _ p hp
    have htarget : e.targetEnd = ⟨⟨"e2"⟩, ⟨"f2"⟩⟩ := by
      have hfield := hconnected.targetField
      rw [Edge.targetEnd, hconnected.target]
      generalize e.targetField = field at hfield
      cases hfield
      rfl
    have hnode := List.get_mem (ofSchema Schema.shop.syncForeignKeys).nodes ⟨1, by decide⟩
    have hfield := List.get_mem
      ((ofSchema Schema.shop.syncForeignKeys).nodes.get ⟨1, by decide⟩).fields ⟨1, by decide⟩
    exact ⟨p, hp, hconnected.unchanged _ hnode _ hfield (Eq.trans rfl htarget.symm) (by decide)⟩
  · obtain ⟨p, hp⟩ : ∃ p, (Gesture.deleteEdge ⟨"r2"⟩).operation.perform
        Schema.shop.syncForeignKeys {} = .ok p := ⟨_, rfl⟩
    obtain ⟨e, he⟩ := hdelete _ p hp
    exact ⟨p, e, hp, he⟩

end Diagram

end EntityRelation
