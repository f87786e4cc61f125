import Audience.Results.Key

/-!
Filter requests. A request comes as a JSON object with a table, a list of filters, and optionally the name of
a campaign and a send mode. Its parts are checked in that order, and the first problem is the one reported.
-/

namespace Audience

/-- A request for the rows that pass the filters. -/
structure FilterRequest where
  table : String
  filters : List FilterSpec
  campaign : CampaignKind := .unspecified
  mode : SendMode := .standard

/-- Why a request is turned down before anything is looked up. -/
inductive RequestError where
  | noTable
  | noFilters
  | badFilter (index : Nat) (cause : FilterSpec.ReadError)
  | campaignNotText
  | unknownMode (cause : SendMode.Unknown)
  | modeNotText
  | invalidTable (name : String)

/-- The message of each cause. -/
def RequestError.message : RequestError → String
  | noTable => "'table' is required and must be a non-empty string"
  | noFilters => "'filters' is required and must be a list"
  | badFilter index cause => s!"filters[{index}]: {cause.message}"
  | campaignNotText => "'tipoCampana' must be a string"
  | unknownMode cause => cause.message
  | modeNotText => "'modoEnvio' must be \"M0\" or \"M1\""
  | invalidTable name => s!"invalid table name '{name}'"

namespace FilterRequest

/-- The table named in a body, without outer blanks. -/
def tableOf : Option Json → Except RequestError String
  | some (.str s) => if Text.trim s = "" then .error .noTable else .ok (Text.trim s)
  | _ => .error .noTable

/-- The filters of a list whose first item stands at a position. -/
def filtersFrom (position : Nat) : List Json → Except RequestError (List FilterSpec)
  | [] => .ok []
  | j :: rest =>
    match FilterSpec.ofJson j with
    | .error cause => .error (.badFilter position cause)
    | .ok f => (filtersFrom (position + 1) rest).map (f :: ·)

/-- The filters listed in a body. -/
def filtersOf : Option Json → Except RequestError (List FilterSpec)
  | some (.arr items) => filtersFrom 0 items
  | _ => .error .noFilters

/-- The kind of campaign named in a body. -/
def campaignOf : Option Json → Except RequestError CampaignKind
  | none => .ok .unspecified
  | some .null => .ok .unspecified
  | some (.str s) => .ok (CampaignKind.ofName s)
  | some _ => .error .campaignNotText

/-- The send mode named in a body. -/
def modeOf : Option Json → Except RequestError SendMode
  | none => .ok .standard
  | some .null => .ok .standard
  | some (.str s) =>
    if s = "" then .ok .standard
    else
      match SendMode.read s with
      | .ok mode => .ok mode
      | .error cause => .error (.unknownMode cause)
  | some _ => .error .modeNotText

/-- The request that a body describes. -/
def ofJson (body : Json) : Except RequestError FilterRequest := do
  let table ← tableOf (body.field? "table")
  let filters ← filtersOf (body.field? "filters")
  let campaign ← campaignOf (body.field? "tipoCampana")
  let mode ← modeOf (body.field? "modoEnvio")
  return ⟨table, filters, campaign, mode⟩

/-- The key under which the answer is kept. -/
def key (r : FilterRequest) : String := cacheKey r.table r.filters r.campaign r.mode

end FilterRequest

end Audience
