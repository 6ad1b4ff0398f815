import EntityRelation.Dialect.Reserved
import EntityRelation.Dialect.Serial
import EntityRelation.Json.Decode

/-!
# Dialects

The dialects differ in how they delimit names, how long a name may be, how they spell a serial type
and what they append to a foreign key. `Dialect.profile` holds the differences, and everything that
depends on a dialect reads them there. `Dialect.quote` puts a name between delimiters when it is no
plain word or is reserved, and writes a closing delimiter inside the name twice.
-/

namespace EntityRelation

/-- A dialect of the data definition language. -/
inductive Dialect where
  | mySql
  | postgreSql
  | sqlite
  | sqlServer
  deriving DecidableEq, Repr, Inhabited

/-- The type and the closing word of a serial column that is the whole primary key, as in
`INTEGER PRIMARY KEY AUTOINCREMENT`. -/
structure SerialKey where
  dataType : String
  suffix : String
  deriving DecidableEq, Repr

/-- The spelling rules of a dialect. -/
structure Profile where
  quoteOpen : Char
  quoteClose : Char
  /-- The length of the longest name in bytes, when there is a limit. -/
  maxNameLength : Option Nat
  serial : String
  bigSerial : String
  serialKey : Option SerialKey
  /-- What is appended to every foreign key clause. -/
  foreignKeySuffix : Option String
  deriving DecidableEq, Repr

/-- A name that stands for no dialect. -/
structure UnknownDialect where
  name : String
  deriving DecidableEq, Repr

/-- The wording of the error. -/
def UnknownDialect.message (e : UnknownDialect) : String :=
  "unknown SQL dialect '" ++ e.name ++ "'"

namespace Dialect

/-- The dialect of a reader who states none. -/
def standard : Dialect := mySql

/-- The spelling rules of a dialect. -/
def profile : Dialect → Profile
  | mySql =>
    { quoteOpen := '\x60'
      quoteClose := '\x60'
      maxNameLength := some 64
      serial := "INT AUTO_INCREMENT"
      bigSerial := "BIGINT AUTO_INCREMENT"
      serialKey := none
      foreignKeySuffix := some "ON DELETE CASCADE" }
  | postgreSql =>
    { quoteOpen := '"'
      quoteClose := '"'
      maxNameLength := some 63
      serial := "SERIAL"
      bigSerial := "BIGSERIAL"
      serialKey := none
      foreignKeySuffix := none }
  | sqlite =>
    { quoteOpen := '"'
      quoteClose := '"'
      maxNameLength := none
      serial := "SERIAL"
      bigSerial := "BIGSERIAL"
      serialKey := some ⟨"INTEGER", "AUTOINCREMENT"⟩
      foreignKeySuffix := none }
  | sqlServer =>
    { quoteOpen := '['
      quoteClose := ']'
      maxNameLength := some 128
      serial := "INT IDENTITY(1,1)"
      bigSerial := "BIGINT IDENTITY(1,1)"
      serialKey := none
      foreignKeySuffix := none }

/-- The name of a dialect. -/
def name : Dialect → String
  | mySql => "MySQL"
  | postgreSql => "PostgreSQL"
  | sqlite => "SQLite"
  | sqlServer => "SQL Server"

/-- The dialect that a name or one of its short forms stands for. Case, blanks, hyphens and
underscores do not matter. -/
def parse (s : String) : Except UnknownDialect Dialect :=
  let key := s.toList.filter fun c => !Text.isBlank c && c != '_' && c != '-'
  match String.ofList (Text.toLower key) with
  | "mysql" | "mariadb" => .ok mySql
  | "postgresql" | "postgres" | "pg" => .ok postgreSql
  | "sqlite" | "sqlite3" => .ok sqlite
  | "sqlserver" | "mssql" | "tsql" => .ok sqlServer
  | _ => .error ⟨s⟩

/-- Whether a name is a plain word: ASCII letters, digits and underscores, no digit first. -/
def isPlain (name : String) : Bool :=
  match name.toList with
  | c :: rest => (c.isAlpha || c = '_') && rest.all fun c => c.isAlphanum || c = '_'
  | [] => false

/-- Whether a name has to stand between delimiters. -/
def needsQuotes (name : String) : Bool :=
  !isPlain name || isReserved name

/-- A name with every closing delimiter written twice. -/
def escape (close : Char) (name : List Char) : List Char :=
  name.flatMap fun c => if c = close then [close, close] else [c]

/-- A name as a script writes it. -/
def quote (d : Dialect) (name : String) : String :=
  if needsQuotes name then
    let p := d.profile
    String.ofList (p.quoteOpen :: escape p.quoteClose name.toList ++ [p.quoteClose])
  else
    name

/-- The spelling of a serial type. -/
def serialType (d : Dialect) : Serial → String
  | .serial => d.profile.serial
  | .bigSerial => d.profile.bigSerial

/-- A column type as a script writes it. -/
def renderType (d : Dialect) (dataType : String) : String :=
  match Serial.ofType? dataType with
  | some kind => d.serialType kind
  | none => Text.trimmed dataType

/-! ## Dialects as JSON -/

def choices : List (String × Dialect) :=
  [mySql, postgreSql, sqlite, sqlServer].map fun d => (d.name, d)

def toJson (d : Dialect) : Json :=
  .text d.name

def ofJson : Decoder Dialect :=
  Decoder.choice choices

end Dialect

end EntityRelation
