import EntityRelation.Text.Blank
import EntityRelation.Text.Case

/-!
# Serial types

`SERIAL` and `BIGSERIAL` stand in a schema for a column that numbers its rows, whatever words a
dialect has for it.
-/

namespace EntityRelation

/-- A type whose values are numbered automatically. -/
inductive Serial where
  | serial
  | bigSerial
  deriving DecidableEq, Repr

namespace Serial

/-- The spelling of a serial type inside a schema. -/
def spelling : Serial → String
  | serial => "SERIAL"
  | bigSerial => "BIGSERIAL"

/-- The serial type that a column type spells, in any ASCII case and with blanks around it. -/
def ofType? (dataType : String) : Option Serial :=
  match Text.asciiUpper (Text.trimmed dataType) with
  | "SERIAL" => some serial
  | "BIGSERIAL" => some bigSerial
  | _ => none

end Serial

end EntityRelation
