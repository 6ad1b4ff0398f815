import EntityRelation.Proofs.Ddl.StatementReading
import EntityRelation.Proofs.DefinitionOrder

/-!
# Scripts read back

A script gives one statement after the other: the tables are created in the order of the script,
and what stands before and after them is passed over.
-/

namespace EntityRelation

namespace Ddl

open Lexer

/-- The lexemes are those of statements with certain properties, whatever follows them. -/
def YieldsAll (Ps : List (Statement → Prop)) (ls : Clause) : Prop :=
  ∃ ss, List.Forall₂ (fun P s => P s) Ps ss ∧
    ∀ rest, Statement.collect [] [] (ls ++ rest) = ss ++ Statement.collect [] [] rest

namespace YieldsAll

variable {P : Statement → Prop} {Ps Qs : List (Statement → Prop)} {as bs : Clause}

theorem nil : YieldsAll [] [] :=
  ⟨[], List.Forall₂.nil, fun _ => rfl⟩

theorem of_yields (h : Yields P as) : YieldsAll [P] as := by
  obtain ⟨s, hs, hcollect⟩ := h
  exact ⟨[s], List.Forall₂.cons hs List.Forall₂.nil, hcollect⟩

theorem append (ha : YieldsAll Ps as) (hb : YieldsAll Qs bs) : YieldsAll (Ps ++ Qs) (as ++ bs) := by
  obtain ⟨ss, hss, has⟩ := ha
  obtain ⟨ts, hts, hbs⟩ := hb
  refine ⟨ss ++ ts, List.rel_append hss hts, fun rest => ?_⟩
  rw [List.append_assoc, has, hbs, List.append_assoc]

end YieldsAll

/-! ## Pieces one after the other -/

theorem reads_yieldsAll_append {cs ds : List Char} {Ps Qs : List (Statement → Prop)}
    (hc : Reads Anything cs (YieldsAll Ps)) (hd : Reads Anything ds (YieldsAll Qs)) :
    Reads Anything (cs ++ ds) (YieldsAll (Ps ++ Qs)) := by
  refine (hc.append hd fun _ _ => trivial).mono ?_
  rintro ls ⟨as, bs, rfl, has, hbs⟩
  exact has.append hbs

theorem reads_yieldsAll_nil : Reads Anything [] (YieldsAll []) := by
  refine Reads.nil.mono ?_
  rintro ls rfl
  exact YieldsAll.nil

variable {α : Type} {f : α → String} {as : List α}

theorem reads_join {Ps : α → List (Statement → Prop)}
    (h : ∀ a ∈ as, Reads Anything (f a).toList (YieldsAll (Ps a))) :
    Reads Anything (String.join (as.map f)).toList (YieldsAll (as.flatMap Ps)) := by
  induction as with
  | nil => exact reads_yieldsAll_nil
  | cons a as ih =>
      rw [List.map_cons, String.join_cons, String.toList_append, List.flatMap_cons]
      exact reads_yieldsAll_append (h a List.mem_cons_self)
        (ih fun b hb => h b (List.mem_cons_of_mem _ hb))

theorem reads_join_yields {P : α → Statement → Prop}
    (h : ∀ a ∈ as, Reads Anything (f a).toList (Yields (P a))) :
    Reads Anything (String.join (as.map f)).toList (YieldsAll (as.map P)) := by
  have hjoin := reads_join fun a ha => (h a ha).mono fun _ => YieldsAll.of_yields
  rwa [← List.map_eq_flatMap] at hjoin

/-- A paragraph of statements. -/
theorem reads_paragraph {P : α → Statement → Prop}
    (h : ∀ a ∈ as, Reads Anything (f a).toList (Yields (P a))) :
    Reads Anything (Script.paragraph (as.map f)).toList (YieldsAll (as.map P)) := by
  cases as with
  | nil => exact reads_yieldsAll_nil
  | cons a as =>
      have hend := (Reads.gap (c := '\n') (Or.inr rfl)).mono fun ls hls => hls ▸ YieldsAll.nil
      have hread := reads_yieldsAll_append (reads_join_yields h) hend
      rw [List.append_nil] at hread
      rw [Script.paragraph, if_neg (by simp), String.toList_append]
      exact hread

/-! ## The whole script -/

/-- The statements of a script: what is passed over, the tables, and again what is passed over. -/
def statementsOf (s : Schema) (o : ScriptOptions) : List (Statement → Prop) :=
  (Script.ofSchema s o).drops.map (fun _ => (·.kind = .other)) ++
    (Script.orderedEntities s o.order).map (fun e => IsTable
      (if o.includePositions then some e.position else none) e
      (TableDefinition.ofEntity s o e).foreignKeys) ++
    (Script.ofSchema s o).indexes.flatMap fun indexes => indexes.map fun _ => (·.kind = .other)

theorem reads_toScript {s : Schema} (o : ScriptOptions) (h : ∀ e ∈ s.entities, e.IsScriptable) :
    Reads Anything (s.toScript o).toList (YieldsAll (statementsOf s o)) := by
  have hdrops := reads_paragraph fun table (_ : table ∈ (Script.ofSchema s o).drops) =>
    reads_renderDrop o.dialect table
  have htables := reads_join_yields fun e (he : e ∈ Script.orderedEntities s o.order) =>
    reads_renderTable s o (h e ((Script.orderedEntities_perm s o.order).subset he))
  have hindexes := reads_join fun indexes (_ : indexes ∈ (Script.ofSchema s o).indexes) =>
    reads_paragraph fun i (_ : i ∈ indexes) => reads_renderIndex o.dialect i
  have hscript := reads_yieldsAll_append (reads_yieldsAll_append hdrops htables) hindexes
  rw [← String.toList_append, ← String.toList_append] at hscript
  rw [Schema.toScript, Script.render]
  have htables : (Script.ofSchema s o).tables.map (Script.renderTable o.dialect) =
      (Script.orderedEntities s o.order).map fun e =>
        Script.renderTable o.dialect (TableDefinition.ofEntity s o e) := by
    rw [Script.ofSchema, List.map_map]
    rfl
  rw [htables]
  exact hscript

theorem foldl_add_other {ss : List Statement} (h : ∀ s ∈ ss, s.kind = .other) (draft : Draft) :
    ss.foldl Draft.add draft = draft := by
  induction ss with
  | nil => rfl
  | cons s ss ih =>
      rw [List.foldl_cons, Draft.add, h s List.mem_cons_self]
      exact ih fun t ht => h t (List.mem_cons_of_mem _ ht)

/-- A script is imported as the statements that create its tables. -/
theorem importScript_toScript {s : Schema} (o : ScriptOptions)
    (h : ∀ e ∈ s.entities, e.IsScriptable) :
    ∃ ss, List.Forall₂ (fun e => IsTable (if o.includePositions then some e.position else none) e
        (TableDefinition.ofEntity s o e).foreignKeys) (Script.orderedEntities s o.order) ss ∧
      importScript (s.toScript o) = (ss.foldl Draft.add {}).finish := by
  obtain ⟨ls, place, afterWord, spaced, ⟨ss, hss, hcollect⟩, hread⟩ :=
    reads_toScript o h [] trivial .start false false
  rw [List.append_nil, lexemesFrom] at hread
  have hnone : Statement.collect [] [] [] = [] := rfl
  have hcollect := hcollect []
  rw [List.append_nil, hnone, List.append_nil] at hcollect
  rw [statementsOf] at hss
  obtain ⟨front, back, rfl, hfront, hback⟩ := exists_append_of_forall₂ hss
  obtain ⟨drops, tables, rfl, hdrops, htables⟩ := exists_append_of_forall₂ hfront
  refine ⟨tables, List.forall₂_map_left_iff.1 htables, ?_⟩
  have hdrops : ∀ st ∈ drops, st.kind = .other := by
    intro st hst
    obtain ⟨P, hP, hPst⟩ := exists_of_forall₂ hdrops hst
    obtain ⟨-, -, rfl⟩ := List.mem_map.1 hP
    exact hPst
  have hback : ∀ st ∈ back, st.kind = .other := by
    intro st hst
    obtain ⟨P, hP, hPst⟩ := exists_of_forall₂ hback hst
    obtain ⟨indexes, -, hmem⟩ := List.mem_flatMap.1 hP
    obtain ⟨-, -, rfl⟩ := List.mem_map.1 hmem
    exact hPst
  rw [importScript, lexemes, hread]
  simp only [Except.map, List.append_nil, Statement.ofLexemes, hcollect, importStatements,
    List.foldl_append, foldl_add_other hdrops, foldl_add_other hback]

end Ddl

end EntityRelation
