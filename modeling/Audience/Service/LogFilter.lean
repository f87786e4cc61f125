import Audience.Number.Reading

/-!
Which log lines are shown. A filter is a list of directives with commas between them: a level, a source, or
both with an equals sign. The directive with the longest source that the line's own source starts with decides,
the last one of two with the same source. A filter without directives shows errors only.
-/

namespace Audience

/-- How grave a log line is. -/
inductive LogLevel where
  | error
  | warn
  | info
  | debug
  | trace
deriving DecidableEq, Repr

namespace LogLevel

/-- The levels from the gravest one on. -/
def all : List LogLevel := [error, warn, info, debug, trace]

/-- The place of a level, from one on. -/
def rank : LogLevel → Nat
  | error => 1
  | warn => 2
  | info => 3
  | debug => 4
  | trace => 5

/-- The name of a level. -/
def name : LogLevel → String
  | error => "ERROR"
  | warn => "WARN"
  | info => "INFO"
  | debug => "DEBUG"
  | trace => "TRACE"

end LogLevel

namespace LogFilter

/-- The last rank that is shown for a source. -/
structure Directive where
  source : List Char
  limit : Nat
deriving DecidableEq, Repr

/-- The rank that a text names, by name or number; zero shows nothing. -/
def limit? (cs : List Char) : Option Nat :=
  let name := String.ofList (cs.map Char.toUpper)
  match cs with
  | [c] => if '0' ≤ c ∧ c ≤ '5' then some (c.toNat - '0'.toNat) else none
  | _ => if name = "OFF" then some 0 else (LogLevel.all.find? fun l => l.name == name).map LogLevel.rank

/-- A character of a source's name. -/
def isSourceChar (c : Char) : Bool := c.isAlphanum || c == '_' || c == ':' || c == '-'

/-- The directive that a text is. A source without a level shows all of its lines. -/
def directive? (cs : List Char) : Option Directive :=
  let source := cs.takeWhile isSourceChar
  match limit? cs, cs.drop source.length with
  | some limit, _ => some ⟨[], limit⟩
  | none, [] => if source = [] then none else some ⟨source, LogLevel.trace.rank⟩
  | none, '=' :: level =>
    if source = [] then none
    else if level = [] then some ⟨source, LogLevel.trace.rank⟩
    else (limit? level).map fun limit => ⟨source, limit⟩
  | none, _ => none

/-- The directives of a filter; none when one is malformed. -/
def directives? (s : String) : Option (List Directive) :=
  ((s.toList.splitOn ',').filter (· ≠ [])).mapM directive?

/-- The later of two directives, unless the earlier one has the longer source. -/
def stronger (found : Option Directive) (d : Directive) : Option Directive :=
  match found with
  | some best => if best.source.length ≤ d.source.length then some d else some best
  | none => some d

/-- The last rank that the directives show for a source. -/
def limitFor (directives : List Directive) (source : String) : Nat :=
  if directives = [] then LogLevel.error.rank
  else
    match (directives.filter fun d => d.source.isPrefixOf source.toList).foldl stronger none with
    | some d => d.limit
    | none => 0

end LogFilter

/-- The last rank that a filter shows for a source. Without a filter, or with a malformed one, it is that of
`info`. -/
def logLimit (filter : Option String) (source : String) : Nat :=
  match filter.bind LogFilter.directives? with
  | some directives => LogFilter.limitFor directives source
  | none => LogLevel.info.rank

example : logLimit (some "warn,seg=trace") "segmento" = 5 ∧
    logLimit (some "segmento=error,segmento=2") "segmento" = 2 ∧ logLimit (some "") "segmento" = 1 ∧
    logLimit (some "a=b") "segmento" = 3 ∧ logLimit (some "tower") "segmento" = 0 := by
  decide +kernel

end Audience
