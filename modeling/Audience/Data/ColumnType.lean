import Audience.Text.Blank

/-!
The canonical column types and the catalog's spellings of them. A spelling is read up to the first `(` or
`<`, which open a length or an element type; case and outer blanks do not matter. What is no known name is
text.
-/

namespace Audience

/-- The type of a column. -/
inductive ColumnType where
  | string
  | bytes
  | bool
  | int64
  | float64
  | numeric
  | bigNumeric
  | date
  | time
  | dateTime
  | timestamp
deriving DecidableEq, Repr, Inhabited

namespace ColumnType

/-- The canonical name. -/
def name : ColumnType → String
  | string => "STRING"
  | bytes => "BYTES"
  | bool => "BOOL"
  | int64 => "INT64"
  | float64 => "FLOAT64"
  | numeric => "NUMERIC"
  | bigNumeric => "BIGNUMERIC"
  | date => "DATE"
  | time => "TIME"
  | dateTime => "DATETIME"
  | timestamp => "TIMESTAMP"

/-- All types. -/
def all : List ColumnType :=
  [string, bytes, bool, int64, float64, numeric, bigNumeric, date, time, dateTime, timestamp]

/-- The other names of a type. -/
def aliases : ColumnType → List String
  | bool => ["BOOLEAN"]
  | int64 => ["INTEGER", "INT", "SMALLINT", "BIGINT", "TINYINT", "BYTEINT"]
  | float64 => ["FLOAT"]
  | numeric => ["DECIMAL"]
  | bigNumeric => ["BIGDECIMAL"]
  | _ => []

/-- The type with exactly this canonical name. -/
def ofName? (s : String) : Option ColumnType := all.find? fun t => t.name == s

/-- Whether the character opens a length or an element type. -/
def opensDetail (c : Char) : Bool := c == '(' || c == '<'

/-- The name in a spelling: what stands before the details, without outer blanks, in upper case. -/
def baseName (raw : String) : String :=
  String.ofList ((Text.trimChars (raw.toList.takeWhile fun c => !opensDetail c)).map Char.toUpper)

/-- The type that a spelling names; text when it names none. -/
def normalize (raw : String) : ColumnType :=
  (all.find? fun t => t.name == baseName raw || t.aliases.contains (baseName raw)).getD string

theorem ofName?_name (t : ColumnType) : ofName? t.name = some t := by
  cases t <;> decide

theorem normalize_name (t : ColumnType) : normalize t.name = t := by
  cases t <;> decide +kernel

example : normalize "\u00a0 smallint (5) " = int64 ∧ normalize "Numeric(10,2)" = numeric ∧
    normalize "ARRAY<INT64>" = string := by decide +kernel

end ColumnType

end Audience
