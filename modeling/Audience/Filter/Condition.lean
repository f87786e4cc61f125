import Audience.Calendar.DayMonth
import Audience.Catalog.SchemaCache
import Audience.Filter.Campaign
import Audience.Filter.Spec

/-!
A filter's condition on the rows of a table, and the `WHERE` text of a list of filters. A filter becomes a
condition by the type of its column alone: neither its position nor its neighbours matter. The position then
names the parameters, `val0`, `val1` and so on, and only names that the table's schema holds are written
into the text; every value is bound to a parameter.
-/

namespace Audience

/-- What a filter asks of a row. -/
inductive Condition where
  /-- Every row passes. -/
  | anything
  /-- The column holds the value. -/
  | equals (column : String) (value : Value)
  /-- The column's day is the one written. -/
  | onDate (column : String) (date : String)
  /-- The column's day and month are these, in any year. -/
  | onDayMonth (column : String) (day : DayMonth)
deriving DecidableEq

/-- Why a filter gives no condition. -/
inductive ConditionError where
  | unknownColumn
  | invalidNumber (value : String) (expected : ColumnType)
  | invalidDate (value : String)
  | spanishDate (cause : DayMonth.ReadError)
  | unsupportedValue
deriving DecidableEq, Repr

namespace Condition

/-- The columns that a loyalty campaign compares by day and month, in any case. -/
def dueDateColumns : List String := ["fecha_vencimiento", "fecha_pago"]

/-- The column that is compared by day whatever its type. -/
def dateTimeColumn : String := "DATETIME"

/-- Two names are equal but for the case of ASCII letters. -/
def sameIgnoringCase (a b : String) : Bool := a.toList.map Char.toLower == b.toList.map Char.toLower

/-- The campaign compares the column by day and month. -/
def comparesDayMonth (campaign : CampaignKind) (column : String) : Bool :=
  campaign == .fidelity && dueDateColumns.any (sameIgnoringCase column)

/-- The column is compared by day. -/
def comparesDate (type : ColumnType) (column : String) : Bool :=
  type == .date || column == dateTimeColumn

/-- The text that a day and month are read from: a string itself, any other value as JSON. -/
def dayMonthText : Json → String
  | .str s => s
  | j => j.text

/-- The text up to the time of day. -/
def beforeTime (cs : List Char) : List Char := cs.takeWhile fun c => c != 'T' && c != ' '

/-- The date that a value starts with. -/
def dateOf (value : Json) : Except ConditionError String :=
  match value with
  | .str s =>
    let date := beforeTime (Text.trimChars s.toList)
    match Date.read? date with
    | some _ => .ok (String.ofList date)
    | none => .error (.invalidDate value.text)
  | _ => .error (.invalidDate value.text)

/-- The integer that a value is or names. -/
def integerOf (value : Value) : Except ConditionError Int64 :=
  let found := match value with
    | .string s => (Reading.int64 (Text.trimChars s.toList)).toOption
    | _ => value.toInt64?
  match found with
  | some n => .ok n
  | none => .error (.invalidNumber value.text .int64)

/-- The finite number that a value is or names. -/
def numberOf (value : Value) : Except ConditionError Binary64 :=
  let found := match value with
    | .string s => (Reading.float64 (Text.trimChars s.toList)).toOption
    | _ => value.toFloat64?
  match found with
  | some (.finite x) => .ok x
  | _ => .error (.invalidNumber value.text .float64)

/-- The value to compare a column of the type with. -/
def comparand (type : ColumnType) (value : Json) : Except ConditionError Value :=
  match Value.ofJson? value with
  | none => .error .unsupportedValue
  | some v =>
    match type with
    | .int64 => (integerOf v).map .int64
    | .float64 => (numberOf v).map fun x => .float64 (.finite x)
    | _ => .ok v

/-- The condition of a filter. -/
def ofFilter (columns : Columns) (campaign : CampaignKind) (f : FilterSpec) :
    Except ConditionError Condition :=
  if f.isWildcard then .ok .anything
  else
    match columns.get? f.column with
    | none => .error .unknownColumn
    | some type =>
      if comparesDayMonth campaign f.column then
        match DayMonth.read (dayMonthText f.value) with
        | .ok day => .ok (.onDayMonth f.column day)
        | .error cause => .error (.spanishDate cause)
      else if comparesDate type f.column then (dateOf f.value).map (.onDate f.column)
      else (comparand type f.value).map (.equals f.column)

/-- The predicate that every row satisfies. -/
def alwaysTrue : String := "1=1"

/-- The name of the parameter of the filter at a position. -/
def paramName (position : Nat) : String := "val" ++ toString position

/-- The predicates of the condition at a position. -/
def predicates (position : Nat) : Condition → List String
  | anything => [alwaysTrue]
  | equals column _ => [column ++ " = @" ++ paramName position]
  | onDate column _ => ["DATE(" ++ column ++ ") = @" ++ paramName position]
  | onDayMonth column _ =>
    ["EXTRACT(MONTH FROM DATE(" ++ column ++ ")) = @" ++ paramName position ++ "_month",
      "EXTRACT(DAY FROM DATE(" ++ column ++ ")) = @" ++ paramName position ++ "_day"]

/-- The parameters of the condition at a position. -/
def params (position : Nat) : Condition → List (String × Value)
  | anything => []
  | equals _ value => [(paramName position, value)]
  | onDate _ date => [(paramName position, .string date)]
  | onDayMonth _ day =>
    [(paramName position ++ "_month", .int64 (Int64.ofNat day.month)),
      (paramName position ++ "_day", .int64 (Int64.ofNat day.day))]

end Condition

/-- The first filter without a condition: its position, its column and the cause. -/
structure CompileError where
  index : Nat
  column : String
  cause : ConditionError
deriving DecidableEq, Repr

/-- The message of each cause. -/
def CompileError.message (e : CompileError) : String :=
  match e.cause with
  | .unknownColumn => s!"filter {e.index}: unknown column '{e.column}'"
  | .invalidNumber value expected =>
    s!"filter {e.index} ({e.column}): '{value}' is not a valid {expected.name}"
  | .invalidDate value => s!"filter {e.index} ({e.column}): '{value}' is not a YYYY-MM-DD date"
  | .spanishDate cause => s!"filter {e.index} ({e.column}): {cause.message}"
  | .unsupportedValue => s!"filter {e.index} ({e.column}): arrays and objects cannot be compared"

/-- The `WHERE` text of a list of filters and the values bound in it. -/
structure CompiledFilters where
  whereText : String
  params : Params
deriving DecidableEq

/-- The conditions of filters whose first one stands at a position. -/
def conditionsFrom (columns : Columns) (campaign : CampaignKind) (position : Nat) :
    List FilterSpec → Except CompileError (List Condition)
  | [] => .ok []
  | f :: rest =>
    match Condition.ofFilter columns campaign f with
    | .error cause => .error ⟨position, f.column, cause⟩
    | .ok c => (conditionsFrom columns campaign (position + 1) rest).map (c :: ·)

namespace CompiledFilters

/-- The predicates of conditions whose first one stands at a position. -/
def predicatesFrom (position : Nat) : List Condition → List String
  | [] => []
  | c :: rest => c.predicates position ++ predicatesFrom (position + 1) rest

/-- The parameters of conditions whose first one stands at a position. -/
def paramsFrom (position : Nat) : List Condition → List (String × Value)
  | [] => []
  | c :: rest => c.params position ++ paramsFrom (position + 1) rest

/-- The predicates joined into one; without any, every row passes. -/
def joined : List String → String
  | [] => Condition.alwaysTrue
  | ps => " AND ".intercalate ps

/-- The `WHERE` text and the parameters of the conditions, the first at position zero. -/
def ofConditions (cs : List Condition) : CompiledFilters :=
  ⟨joined (predicatesFrom 0 cs), NameMap.ofList (paramsFrom 0 cs)⟩

end CompiledFilters

/-- Compiles filters against the columns of a table. -/
def compile (columns : Columns) (filters : List FilterSpec) (campaign : CampaignKind) :
    Except CompileError CompiledFilters :=
  (conditionsFrom columns campaign 0 filters).map CompiledFilters.ofConditions

end Audience
