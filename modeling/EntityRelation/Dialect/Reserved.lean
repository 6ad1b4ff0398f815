import EntityRelation.Text.Case

/-!
# Reserved words

A name that a dialect reserves has to be quoted. One list serves all dialects: what any of them
reserves is reserved everywhere, so that a schema may move between them. A name is compared by its
full upper case.
-/

namespace EntityRelation

namespace Reserved

/-- The reserved words of the SQL standard. -/
def standardWords : List String :=
  ["ADD", "ALL", "ALTER", "AND", "ANY", "AS", "ASC", "BETWEEN", "BY", "CASE", "CHECK", "COLUMN",
    "CONSTRAINT", "CREATE", "CROSS", "CURRENT", "CURRENT_DATE", "CURRENT_TIME",
    "CURRENT_TIMESTAMP", "CURRENT_USER", "DATABASE", "DEFAULT", "DELETE", "DESC", "DISTINCT",
    "DROP", "ELSE", "END", "EXISTS", "FALSE", "FETCH", "FOR", "FOREIGN", "FROM", "FULL", "GRANT",
    "GROUP", "HAVING", "IF", "IN", "INDEX", "INNER", "INSERT", "INTO", "IS", "JOIN", "KEY",
    "LEFT", "LIKE", "LIMIT", "NOT", "NULL", "OFFSET", "ON", "OR", "ORDER", "OUTER", "PRIMARY",
    "REFERENCES", "RIGHT", "SELECT", "SET", "TABLE", "THEN", "TO", "TRUE", "UNION", "UNIQUE",
    "UPDATE", "USING", "VALUES", "WHEN", "WHERE", "WITH"]

/-- Further words that MySQL reserves. -/
def mySqlWords : List String :=
  ["AUTO_INCREMENT", "CHANGE", "COLLATE", "EXPLAIN", "FORCE", "IGNORE", "INTERVAL", "MODIFY",
    "PROCEDURE", "RENAME", "REPLACE", "SCHEMA", "SHOW", "TRIGGER", "TRUNCATE", "UNSIGNED", "VIEW",
    "ZEROFILL"]

/-- Further words that PostgreSQL reserves. -/
def postgreSqlWords : List String :=
  ["ANALYSE", "ANALYZE", "ARRAY", "ASYMMETRIC", "AUTHORIZATION", "BOTH", "CAST", "CONCURRENTLY",
    "DEFERRABLE", "DO", "EXCEPT", "FREEZE", "ILIKE", "INITIALLY", "INTERSECT", "ISNULL",
    "LATERAL", "LEADING", "LOCALTIME", "LOCALTIMESTAMP", "NATURAL", "NOTNULL", "ONLY", "OVERLAPS",
    "PLACING", "RETURNING", "SESSION_USER", "SIMILAR", "SOME", "SYMMETRIC", "TABLESAMPLE",
    "TRAILING", "VARIADIC", "VERBOSE", "WINDOW"]

/-- Further words that SQLite reserves. -/
def sqliteWords : List String :=
  ["AUTOINCREMENT", "PRAGMA", "VACUUM"]

/-- Further words that SQL Server reserves. -/
def sqlServerWords : List String :=
  ["IDENTITY", "CLUSTERED", "NONCLUSTERED", "TOP", "TRAN", "TRANSACTION"]

/-- Every reserved word. -/
def words : List String :=
  standardWords ++ mySqlWords ++ postgreSqlWords ++ sqliteWords ++ sqlServerWords

end Reserved

/-- Whether a name is a reserved word. -/
def isReserved (name : String) : Bool :=
  Reserved.words.contains (String.ofList (Text.toUpper name.toList))

end EntityRelation
