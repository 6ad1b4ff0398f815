import EntityRelation.Proofs.Edit.Entity
import EntityRelation.Proofs.Edit.Field
import EntityRelation.Proofs.Edit.Relationship

/-!
# What accepted operations lead to

What an accepted operation has found, what it reports and the schema that it leads to are written
down once (`Operation.Transition`). Whatever operations keep is proved by cases on it.
-/

namespace EntityRelation

namespace Operation

/-- What an operation that is accepted has found, and what it leads to. -/
inductive Transition (s : Schema) (ids : IdSupply) : Operation → Performed → Prop where
  | addEntity : Transition s ids .addEntity
      ⟨.createdEntity ids.entity, s.pushEntity (s.newEntity s.freeName ids.entity ids.field),
        ids.afterEntity⟩
  | addEntityNamed {name stored : String} (isName : IsName stored)
      (free : s.nameTaken stored none = false) : Transition s ids (.addEntityNamed name)
      ⟨.createdEntity ids.entity, s.pushEntity (s.newEntity stored ids.entity ids.field),
        ids.afterEntity⟩
  | deleteEntity {id : EntityId} {e : Entity} (found : s.entity? id = some e) :
      Transition s ids (.deleteEntity id)
        ⟨.removedEntity e, (s.withoutEntity id).syncForeignKeys, ids⟩
  | renameEntity {id : EntityId} {name stored : String} {e : Entity} (isName : IsName stored)
      (found : s.entity? id = some e) (free : s.nameTaken stored (some id) = false) :
      Transition s ids (.renameEntity id name)
        ⟨.changed, (s.updateEntity id fun e => { e with name := stored }).syncForeignKeys, ids⟩
  | moveEntity {id : EntityId} {position : Position} {e : Entity} (found : s.entity? id = some e) :
      Transition s ids (.moveEntity id position)
        ⟨.changed, s.updateEntity id fun e => { e with position }, ids⟩
  | addField {entity : EntityId} {field : Field} {stored : String} {e : Entity}
      (isName : IsName stored) (found : s.entity? entity = some e)
      (free : e.nameTaken stored none = false) : Transition s ids (.addField entity field)
      ⟨.createdField ids.field,
        (s.updateEntity entity fun e =>
          { e with fields := e.fields ++ [{ field with id := ids.field, name := stored }] }
          ).syncForeignKeys,
        ids.afterField⟩
  | replaceField {entity : EntityId} {id : FieldId} {field old : Field} {stored : String}
      {e : Entity} (isName : IsName stored) (found : s.entity? entity = some e)
      (foundField : e.field? id = some old) (free : e.nameTaken stored (some id) = false) :
      Transition s ids (.replaceField entity id field)
        ⟨.changed,
          (s.updateEntity entity fun e =>
            e.updateField id fun _ => { field with id, name := stored }).syncForeignKeys,
          ids⟩
  | deleteField {entity : EntityId} {id : FieldId} {e : Entity} {f : Field}
      (found : s.entity? entity = some e) (foundField : e.field? id = some f)
      (others : e.fields.length ≠ 1) : Transition s ids (.deleteField entity id)
      ⟨.removedField f, (s.withoutField entity id).syncForeignKeys, ids⟩
  | connect {connection : Connection} {r : Relationship} (new : r.id = ids.relationship)
      (parent : (s.endpoint? r.parent).isSome) (child : (s.endpoint? r.child).isSome)
      (free : s.joins r.parent r.child = false) : Transition s ids (.connect connection)
      ⟨.createdRelationship ids.relationship, (s.pushRelationship r).syncForeignKeys,
        ids.afterRelationship⟩
  | deleteRelationship {id : RelationshipId} {r : Relationship}
      (found : s.relationship? id = some r) : Transition s ids (.deleteRelationship id)
      ⟨.removedRelationship r, (s.withoutRelationship id).syncForeignKeys, ids⟩
  | setCardinality {id : RelationshipId} {cardinality : Cardinality} {r : Relationship}
      (found : s.relationship? id = some r) : Transition s ids (.setCardinality id cardinality)
      ⟨.changed, s.withCardinality id cardinality, ids⟩

variable {s : Schema} {ids : IdSupply} {op : Operation} {p : Performed}

theorem Transition.of_perform (h : op.perform s ids = .ok p) : Transition s ids op p := by
  cases op with
  | addEntity =>
      obtain rfl := Except.ok.inj h
      exact .addEntity
  | addEntityNamed name =>
      rw [perform] at h
      obtain ⟨t, ht, rfl⟩ := exists_of_map_eq_ok h
      obtain ⟨stored, hname, hfree, rfl⟩ := Schema.addEntityNamed_eq_ok ht
      exact .addEntityNamed hname hfree
  | deleteEntity id =>
      rw [perform] at h
      obtain ⟨⟨e, t⟩, ht, rfl⟩ := exists_of_map_eq_ok h
      obtain ⟨he, rfl⟩ := Schema.deleteEntity_eq_ok ht
      exact .deleteEntity he
  | renameEntity id name =>
      rw [perform] at h
      obtain ⟨t, ht, rfl⟩ := exists_of_map_eq_ok h
      obtain ⟨e, he⟩ := Schema.exists_entity?_of_renameEntity ht
      obtain ⟨stored, hname, hfree, rfl⟩ := Schema.renameEntity_eq_ok ht
      exact .renameEntity hname he hfree
  | moveEntity id position =>
      rw [perform] at h
      obtain ⟨t, ht, rfl⟩ := exists_of_map_eq_ok h
      obtain ⟨e, he⟩ := Schema.exists_entity?_of_moveEntity ht
      obtain rfl := Schema.moveEntity_eq_ok ht
      exact .moveEntity he
  | addField entity field =>
      rw [perform] at h
      obtain ⟨t, ht, rfl⟩ := exists_of_map_eq_ok h
      obtain ⟨stored, e, hname, he, hfree, rfl⟩ := Schema.addField_eq_ok ht
      exact .addField hname he hfree
  | replaceField entity id field =>
      rw [perform] at h
      obtain ⟨t, ht, rfl⟩ := exists_of_map_eq_ok h
      obtain ⟨stored, e, hname, he, hfree, heq⟩ := Schema.replaceField_eq_ok ht
      obtain ⟨old, hold⟩ := Schema.exists_field?_of_replaceField he ht
      obtain rfl := heq
      exact .replaceField hname he hold hfree
  | deleteField entity id =>
      rw [perform] at h
      obtain ⟨⟨f, t⟩, ht, rfl⟩ := exists_of_map_eq_ok h
      obtain ⟨e, he, hf, hothers, rfl⟩ := Schema.deleteField_eq_ok ht
      exact .deleteField he hf hothers
  | connect connection =>
      rw [perform] at h
      obtain ⟨t, ht, rfl⟩ := exists_of_map_eq_ok h
      obtain ⟨r, hid, hp, hc, hfree, rfl⟩ := Schema.connect_eq_ok ht
      exact .connect hid hp hc hfree
  | deleteRelationship id =>
      rw [perform] at h
      obtain ⟨⟨r, t⟩, ht, rfl⟩ := exists_of_map_eq_ok h
      obtain ⟨hr, rfl⟩ := Schema.deleteRelationship_eq_ok ht
      exact .deleteRelationship hr
  | setCardinality id cardinality =>
      rw [perform] at h
      obtain ⟨t, ht, rfl⟩ := exists_of_map_eq_ok h
      obtain ⟨r, hr⟩ := Schema.exists_relationship?_of_setCardinality ht
      obtain rfl := Schema.setCardinality_eq_ok ht
      exact .setCardinality hr

end Operation

end EntityRelation
