import EntityRelation.Proofs.Ddl.KeySpellings
import EntityRelation.Proofs.Ddl.LinksOfColumn

/-!
# All spellings of a foreign key mean the same

The draft of a script gains the same key wherever a foreign key is written down, and the keys are
resolved when all tables are known. So it makes no difference in which of its spellings a foreign
key stands in a script, whether its parent comes later or is the table itself, or whether it stands
there several times (`importStatements_spellings`). Three words get in the way of a spelling where
they are names without quotes (`importedLinks_of_keywords`).
-/

namespace EntityRelation

namespace Ddl

variable {t c : String} {target : ForeignTarget}

/-- The columns of an imported schema are those of the draft. -/
theorem Draft.hasColumn_of_linked {d : Draft} (htabled : d.Tabled fun _ => True)
    (hnumbered : d.Numbered) {e : Entity}
    (hentity : d.linked.syncForeignKeys.entityNamed? t = some e)
    (hfield : (e.fieldNamed? c).isSome = true) : ∃ e' f, d.HasColumn t c e' f := by
  have hbare := d.linked.syncForeignKeys.entityNamed?_bare t
  rw [Schema.bare_syncForeignKeys, d.linked.entityNamed?_bare, hentity, Option.map_some,
    Option.map_eq_some_iff] at hbare
  obtain ⟨e', he', hsame⟩ := hbare
  have hfields := congrArg (fun e => (Entity.fieldNamed? e c).isSome) hsame
  simp only [Entity.fieldNamed?_bare, Option.isSome_map, hfield] at hfields
  obtain ⟨f, hf⟩ := Option.isSome_iff_exists.1 hfields
  exact ⟨e', f, htabled, hnumbered, he', hf⟩

/-- What a draft comes to that has gained foreign keys of a column. -/
theorem Draft.GainsKey.gains_isTo {d d' : Draft} {e : Entity} {f : Field}
    (h : d.GainsKey t c target d') (hcolumn : d.HasColumn t c e f) :
    d.Gains (PendingKey.isTo e.id c target) d' := by
  obtain ⟨id, hid, hgains⟩ := h
  rw [Draft.idNamed?_eq, hcolumn.entity, Option.map_some] at hid
  obtain rfl := Option.some.inj hid
  exact hgains

/-- The spellings of a foreign key mean the same. Take statements that are imported, and a column
that references nothing but the target. Wherever a foreign key of the column to the target is
written down, and however often, the tables are the same with all flags and references of their
columns, and so are the links by name. The column is linked once, to the target, if the target is
there. -/
theorem importStatements_spellings {ss ss₁ ss₂ : List Statement} {report : ImportReport}
    {e : Entity} (h : importStatements ss = .ok report)
    (hentity : report.schema.entityNamed? t = some e)
    (hfield : (e.fieldNamed? c).isSome = true)
    (hother : ∀ p ∈ report.schema.sources t c, target.column? report.schema = some p)
    (h₁ : Relation.TransGen (Spelling t c target) ss ss₁)
    (h₂ : Relation.TransGen (Spelling t c target) ss ss₂) :
    ∃ report₁ report₂, importStatements ss₁ = .ok report₁ ∧ importStatements ss₂ = .ok report₂ ∧
      report₁.schema.entities = report₂.schema.entities ∧
      (∀ names, names ∈ report₁.schema.links ↔ names ∈ report₂.schema.links) ∧
      report₁.schema.sources t c = (target.column? report.schema).toList := by
  obtain ⟨hne, hschema⟩ := Draft.of_finish h
  have hnumbered : ∀ ss : List Statement, (ss.foldl Draft.add {}).Numbered :=
    fun ss => Draft.Numbered.empty.foldl_add ss
  have htabled : (ss.foldl Draft.add {}).Tabled fun _ => True :=
    Draft.Tabled.empty.foldl_add fun _ _ _ _ _ _ => trivial
  change report.schema = (ss.foldl Draft.add {}).linked.syncForeignKeys at hschema
  rw [hschema] at hentity hother
  obtain ⟨e', f, hcolumn⟩ := Draft.hasColumn_of_linked htabled (hnumbered ss) hentity hfield
  have hsame : target.column? report.schema = target.column? (ss.foldl Draft.add {}).schema := by
    rw [hschema, target.column?_syncForeignKeys]
    rfl
  have honly : (ss.foldl Draft.add {}).OnlyTo t c target := by
    intro p hp
    rw [← hsame, hschema]
    exact hother p hp
  have hgains₁ := (gainsKey_of_spellings h₁).gains_isTo hcolumn
  have hgains₂ := (gainsKey_of_spellings h₂).gains_isTo hcolumn
  have hlinked₁ := hgains₁.linkedBy_isTo hcolumn honly (hnumbered ss₁)
  have hlinked₂ := hgains₂.linkedBy_isTo hcolumn honly (hnumbered ss₂)
  refine ⟨_, _, Draft.finish_eq (hgains₁.entities ▸ hne), Draft.finish_eq (hgains₂.entities ▸ hne),
    ?_, ?_, ?_⟩
  · exact hlinked₂.entities_eq hlinked₁ (hgains₁.entities.trans hgains₂.entities.symm)
  · intro names
    exact (hlinked₁.mem_links_iff names).trans (hlinked₂.mem_links_iff names).symm
  · rw [hsame]
    exact hgains₁.sources_eq hcolumn honly (hnumbered ss₁)

/-- A sign in a row of lexemes. -/
def signLexeme (token : Token) (text : String) : Lexeme :=
  ⟨token, text, .start, false⟩

/-- `REFERENCES person (id)` -/
def ownerReference : Clause :=
  Column.wordLexeme "REFERENCES" :: ([Column.wordLexeme "person"] ++
    [signLexeme .leftParen "(", Column.wordLexeme "id", signLexeme .rightParen ")"])

/-- `FOREIGN KEY (owner) REFERENCES person (id)` with the name of the constraint in front. -/
def ownerKey (label : Clause) : Clause :=
  label ++ Column.wordLexeme "FOREIGN" :: Column.wordLexeme "KEY" ::
    ([signLexeme .leftParen "(", Column.wordLexeme "owner", signLexeme .rightParen ")"] ++
      ownerReference)

/-- `CREATE TABLE pet (owner INT`, and what stands behind this in the table. -/
def petTable (more : Clause) : Statement where
  lexemes :=
    ["CREATE", "TABLE", "pet"].map Column.wordLexeme ++
      signLexeme .leftParen "(" :: ["owner", "INT"].map Column.wordLexeme ++
      (more ++ [signLexeme .rightParen ")"])
  comments := []

/-- `CREATE TABLE person (id INT PRIMARY KEY)` -/
def personTable : Statement where
  lexemes :=
    ["CREATE", "TABLE", "person"].map Column.wordLexeme ++
      signLexeme .leftParen "(" :: ["id", "INT", "PRIMARY", "KEY"].map Column.wordLexeme ++
      [signLexeme .rightParen ")"]
  comments := []

/-- `ALTER TABLE pet ADD CONSTRAINT kept FOREIGN KEY (owner) REFERENCES person (id)` -/
def petAlteration : Statement where
  lexemes :=
    Column.wordLexeme "ALTER" :: Column.wordLexeme "TABLE" :: ([Column.wordLexeme "pet"] ++
      Column.wordLexeme "ADD" :: ownerKey (["CONSTRAINT", "kept"].map Column.wordLexeme))
  comments := []

theorem importStatements_spellings_pet : ∃ report₁ report₂,
    importStatements [petTable ownerReference, personTable] = .ok report₁ ∧
      importStatements [petTable (signLexeme .comma "," :: ownerKey []), personTable,
        petAlteration] = .ok report₂ ∧
      report₁.schema.entities = report₂.schema.entities ∧
      (∀ names, names ∈ report₁.schema.links ↔ names ∈ report₂.schema.links) ∧
      report₁.schema.sources "pet" "owner" = [⟨"person", "id"⟩] := by
  have hreference : IsModifier (.reference ⟨"person", some "id"⟩) ownerReference :=
    .referenceColumn (by decide) (.last rfl) rfl rfl rfl
  have hcreates : Draft.Creates {} "pet" (petTable []) := ⟨rfl, by decide +kernel⟩
  have htakes : TakesReference "owner" ⟨"person", some "id"⟩ ownerReference
      (["owner", "INT"].map Column.wordLexeme) (["owner", "INT"].map Column.wordLexeme) := by
    refine ⟨⟨"owner", [], by decide, ?_, nofun⟩, by decide, hreference, ?_⟩
    · have hclause : IsColumnClause "owner" (([] : List (Trait × Clause)).map Prod.fst)
          (Column.wordLexeme "owner" :: ([Column.wordLexeme "INT"] ++
            (([] : List (Trait × Clause)).map Prod.snd).flatten)) :=
        .intro rfl (by decide) (by decide) (by decide) (fun _ hg => absurd hg List.not_mem_nil)
      exact hclause
    · rintro ⟨hlike, -⟩
      exact absurd hlike (by decide)
  have hopens : OpensTable "pet" (["owner", "INT"].map Column.wordLexeme)
      (["CREATE", "TABLE", "pet"].map Column.wordLexeme ++
        signLexeme .leftParen "(" :: ["owner", "INT"].map Column.wordLexeme) :=
    ⟨signLexeme .leftParen "(", by decide +kernel, rfl⟩
  have hcloses : ClosesTable [] [signLexeme .rightParen ")"] :=
    ⟨signLexeme .rightParen ")", [], rfl, rfl⟩
  have hinline : Spelling "pet" "owner" ⟨"person", some "id"⟩ ([] ++ petTable [] :: [personTable])
      ([] ++ petTable ownerReference :: [personTable]) :=
    .within (.inDefinition hcreates (@id (OpensTable "pet" ([] ++ _) _) hopens) hcloses (by decide)
      (.inl rfl) ⟨by decide, by decide, by decide⟩ (.inl rfl) htakes (by decide +kernel))
  have hclause : Spelling "pet" "owner" ⟨"person", some "id"⟩ ([] ++ petTable [] :: [personTable])
      ([] ++ petTable (signLexeme .comma "," :: ownerKey []) :: [personTable]) := by
    have hkey : IsForeignKey "owner" ⟨"person", some "id"⟩ (ownerKey []) :=
      .intro .unnamed (by decide) (by decide) rfl rfl rfl hreference
    exact .within (.lastClause hcreates hopens hcloses (by decide) (by decide) rfl hkey (by decide))
  have halteration : Spelling "pet" "owner" ⟨"person", some "id"⟩
      ([petTable (signLexeme .comma "," :: ownerKey []), personTable] ++ [])
      ([petTable (signLexeme .comma "," :: ownerKey []), personTable] ++ [petAlteration]) := by
    have hkey : IsForeignKey "owner" ⟨"person", some "id"⟩
        (ownerKey (["CONSTRAINT", "kept"].map Column.wordLexeme)) :=
      .intro (.named (by decide) rfl (by decide)) (by decide) (by decide) rfl rfl rfl hreference
    exact .behind (by decide +kernel) (.intro (by decide) (by decide) (.last rfl) (by decide)
      (by decide) hkey (by decide) (by decide))
  have hfacts : ((importStatements [petTable [], personTable]).toOption.any fun report =>
      ((report.schema.entityNamed? "pet").bind (·.fieldNamed? "owner")).isSome &&
        (report.schema.sources "pet" "owner").isEmpty &&
        ForeignTarget.column? ⟨"person", some "id"⟩ report.schema ==
          some ⟨"person", "id"⟩) = true := by
    decide +kernel
  cases hreport : importStatements [petTable [], personTable] with
  | error e =>
      rw [hreport] at hfacts
      cases hfacts
  | ok report =>
      rw [hreport] at hfacts
      simp only [Except.toOption, Option.any_some, Bool.and_eq_true, beq_iff_eq,
        List.isEmpty_iff] at hfacts
      obtain ⟨⟨hcolumn, hsources⟩, htarget⟩ := hfacts
      cases hentity : report.schema.entityNamed? "pet" with
      | none =>
          rw [hentity] at hcolumn
          cases hcolumn
      | some e =>
          rw [hentity, Option.bind_some] at hcolumn
          have hother : ∀ p ∈ report.schema.sources "pet" "owner",
              ForeignTarget.column? ⟨"person", some "id"⟩ report.schema = some p := by
            rw [hsources]
            exact nofun
          have hall := importStatements_spellings hreport hentity hcolumn hother
            (.single hinline) (.tail (.single hclause) halteration)
          rwa [htarget] at hall

/-- The links by name in the schema of a script. -/
def importedLinks (sql : String) : List (ColumnName × ColumnName) :=
  match importScript sql with
  | .ok report => report.schema.links
  | .error _ => []

/-- Without quotes, `ONLY` is no name of a table that is altered, `CHECK` no name of a constraint,
and a definition that starts with `LIKE` and ends in a period goes on with `INCLUDING`. -/
theorem importedLinks_of_keywords :
    importedLinks "CREATE TABLE p (id INT); CREATE TABLE only (c INT REFERENCES p (id))" =
        [(⟨"p", "id"⟩, ⟨"only", "c"⟩)] ∧
      importedLinks "CREATE TABLE p (id INT); CREATE TABLE only (c INT);
        ALTER TABLE only ADD FOREIGN KEY (c) REFERENCES p (id)" = [] ∧
      importedLinks "CREATE TABLE p (id INT); CREATE TABLE t (c INT REFERENCES p (id))" =
        [(⟨"p", "id"⟩, ⟨"t", "c"⟩)] ∧
      importedLinks "CREATE TABLE p (id INT); CREATE TABLE t (c INT,
        CONSTRAINT check FOREIGN KEY (c) REFERENCES p (id))" = [] ∧
      importedLinks "CREATE TABLE including (id INT); CREATE TABLE t (n INT,
        like a. REFERENCES including (id))" = [] ∧
      importedLinks "CREATE TABLE including (id INT); CREATE TABLE t (n INT, like a.,
        FOREIGN KEY (like) REFERENCES including (id))" =
        [(⟨"including", "id"⟩, ⟨"t", "like"⟩)] := by
  decide +kernel

end Ddl

end EntityRelation
