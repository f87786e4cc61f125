import Audience.Proofs.Json.Shaped
import Audience.Warehouse.Page

/-!
Pages read from texts. The readers of a page and of its parts look at nothing that their shapes pass over, so a text that
can be read whole holds the page that its value describes (`Page.read?_of_parse?`). Other texts may hold a page as well:
what a page has no name for only has to be written as JSON is.
-/

namespace Audience
open Json (Part part_within part_within_whole list?_within isRecord_within)

variable {j : Json}

theorem JobReference.ofJson?_within (j : Json) : JobReference.ofJson? (j.within shape) = JobReference.ofJson? j := by
  have project : (j.within shape).part 0 "projectId" = j.part 0 "projectId" := part_within_whole rfl rfl j
  have job : (j.within shape).part 1 "jobId" = j.part 1 "jobId" := part_within_whole rfl rfl j
  have location : (j.within shape).part 2 "location" = j.part 2 "location" := part_within_whole rfl rfl j
  rw [ofJson?, ofJson?, isRecord_within, project, job, location]

theorem Field.ofJson?_within (j : Json) : Field.ofJson? (j.within shape) = Field.ofJson? j := by
  have name : (j.within shape).part 0 "name" = j.part 0 "name" := part_within_whole rfl rfl j
  have type : (j.within shape).part 1 "type" = j.part 1 "type" := part_within_whole rfl rfl j
  have mode : (j.within shape).part 2 "mode" = j.part 2 "mode" := part_within_whole rfl rfl j
  rw [ofJson?, ofJson?, isRecord_within, name, type, mode]

namespace Page

theorem cell?_within (j : Json) : cell? (j.within cellShape) = cell? j := by
  have value : (j.within cellShape).part 0 "v" = j.part 0 "v" := part_within_whole rfl rfl j
  rw [cell?, cell?, isRecord_within, value]

theorem row?_within (j : Json) : row? (j.within rowShape) = row? j := by
  have cells : (j.within rowShape).part 0 "f" = (j.part 0 "f").map (·.within (.list cellShape)) := part_within rfl rfl j
  rw [row?, row?, isRecord_within, cells, Part.withDefault?_within (list?_within cell?_within)]

theorem fields?_within (j : Json) : fields? (j.within fieldsShape) = fields? j := by
  have fields : (j.within fieldsShape).part 0 "fields" = (j.part 0 "fields").map (·.within (.list Field.shape)) :=
    part_within rfl rfl j
  rw [fields?, fields?, isRecord_within, fields, Part.withDefault?_within (list?_within Field.ofJson?_within)]

/-- What the shape of a page passes over is not looked at. -/
theorem ofJson?_within (j : Json) : ofJson? (j.within shape) = ofJson? j := by
  have complete : (j.within shape).part 0 "jobComplete" = j.part 0 "jobComplete" := part_within_whole rfl rfl j
  have schema : (j.within shape).part 1 "schema" = (j.part 1 "schema").map (·.within fieldsShape) := part_within rfl rfl j
  have rows : (j.within shape).part 2 "rows" = (j.part 2 "rows").map (·.within (.list rowShape)) := part_within rfl rfl j
  have token : (j.within shape).part 3 "pageToken" = j.part 3 "pageToken" := part_within_whole rfl rfl j
  have job : (j.within shape).part 4 "jobReference" = (j.part 4 "jobReference").map (·.within JobReference.shape) :=
    part_within rfl rfl j
  rw [ofJson?, ofJson?, isRecord_within, complete, schema, rows, token, job, Part.optional?_within fields?_within,
    Part.optional?_within (list?_within row?_within), Part.optional?_within JobReference.ofJson?_within]

/-- A text that can be read whole holds the page that its value describes. -/
theorem read?_of_parse? {text : String} (h : Json.parse? text = some j) : Page.read? text = ofJson? j := by
  rw [Page.read?, Json.parseAs?_of_parse? shape h, Option.bind_some, ofJson?_within]

end Page

end Audience
