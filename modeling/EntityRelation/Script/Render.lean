import EntityRelation.Decimal.FloatText
import EntityRelation.Script.Basic

/-!
# Writing scripts

The text of a script in a dialect. Names are quoted where the dialect asks for it; types and
defaults are written as they are. A blank line follows the drop statements, every table and the
indexes of every table.
-/

namespace EntityRelation

namespace Script

variable (d : Dialect)

/-- Quoted names between parentheses. -/
def nameList (names : List String) : String :=
  "(" ++ String.intercalate ", " (names.map d.quote) ++ ")"

/-- A text after a blank, if there is one. -/
def spaced : Option String → String
  | some text => " " ++ text
  | none => ""

/-- A text after a blank, if the condition holds. -/
def flag (condition : Bool) (text : String) : String :=
  if condition then " " ++ text else ""

/-- The clause of a column. -/
def renderColumn (c : ColumnDefinition) : String :=
  "  " ++ d.quote c.name ++ " " ++ c.dataType ++ flag c.isSoleKey "PRIMARY KEY" ++
    spaced c.keySuffix ++ flag c.isNotNull "NOT NULL" ++ flag c.isUnique "UNIQUE" ++
    spaced (c.default.map ("DEFAULT " ++ ·))

/-- The clause of a primary key of several columns. -/
def renderCompositeKey (columns : List String) : String :=
  "  PRIMARY KEY " ++ nameList d columns

/-- The clause of a foreign key. -/
def renderForeignKey (k : ForeignKeyDefinition) : String :=
  "  FOREIGN KEY " ++ nameList d [k.column] ++ " REFERENCES " ++ d.quote k.table ++
    nameList d [k.referenced] ++ spaced d.profile.foreignKeySuffix

/-- The clauses of a table. -/
def clauses (t : TableDefinition) : List String :=
  t.columns.map (renderColumn d) ++
    (if t.compositeKey.isEmpty then [] else [renderCompositeKey d t.compositeKey]) ++
    t.foreignKeys.map (renderForeignKey d)

/-- The comment that notes a position. -/
def renderPosition (p : Position) : String :=
  "-- Position: (" ++ FloatText.plain p.x ++ ", " ++ FloatText.plain p.y ++ ")\n"

/-- The statement that creates a table. -/
def renderTable (t : TableDefinition) : String :=
  ((t.position.map renderPosition).getD "") ++ "CREATE TABLE " ++ d.quote t.name ++ " (\n" ++
    String.intercalate ",\n" (clauses d t) ++ "\n);\n\n"

/-- The statement that drops a table. -/
def renderDrop (table : String) : String :=
  "DROP TABLE IF EXISTS " ++ d.quote table ++ ";\n"

/-- The statement that creates an index. -/
def renderIndex (i : IndexDefinition) : String :=
  "CREATE INDEX " ++ d.quote i.name ++ " ON " ++ d.quote i.table ++ nameList d [i.column] ++ ";\n"

/-- Statements and the blank line after them. -/
def paragraph (statements : List String) : String :=
  if statements.isEmpty then "" else String.join statements ++ "\n"

/-- The text of a script. -/
def render (script : Script) : String :=
  paragraph (script.drops.map (renderDrop d)) ++
    String.join (script.tables.map (renderTable d)) ++
    String.join (script.indexes.map fun indexes => paragraph (indexes.map (renderIndex d)))

end Script

namespace TableOrder

def choices : List (String × TableOrder) :=
  [("Insertion", insertion), ("Dependencies", dependencies)]

def toJson : TableOrder → Json
  | insertion => .text "Insertion"
  | dependencies => .text "Dependencies"

def ofJson : Decoder TableOrder :=
  Decoder.choice choices

end TableOrder

/-- The text of a schema as a script. -/
def Schema.toScript (s : Schema) (options : ScriptOptions) : String :=
  Script.render options.dialect (Script.ofSchema s options)

end EntityRelation
