import Audience.Http.Server
import Audience.Proofs.Service.History
import Audience.Service.Settings

/-!
A server as it lives on. What a request has the service do is its task, and it is read from the request alone: the
path, the method and the body decide it, not the state (`Server.handle_snd`). A run starts with the settings and takes
requests in any order, while the warehouse changes and time passes.
-/

namespace Audience.Http

/-- What a request has the service do. -/
inductive Task where
  | nothing
  | query (q : FilterRequest)
  | deleteEntry (key : String)
  | clear
  | clean
  | introspect (table : String)
  | forget (table : String)

namespace Task

/-- The table that the task is about. -/
def table? : Task → Option String
  | query q => some q.table
  | introspect table => some table
  | forget table => some table
  | _ => none

/-- The service after the task, at a time. -/
def perform (s : FilterService) (now : Nat) : Task → FilterService
  | nothing => s
  | query q => (s.run now q).2
  | deleteEntry key => { s with results := (s.results.delete key).2 }
  | clear => { s with results := s.results.clear }
  | clean => { s with results := (s.results.cleanExpired now).2 }
  | introspect table =>
    let t := s.tableRef table
    if t.Valid then
      { s with gateway := ((s.gateway.send (Catalog.columnsStatement t)).2.send
          (Catalog.tablesStatement t.project t.dataset)).2 }
    else s
  | forget table =>
    let t := s.tableRef table
    if t.Valid then { s with schemas := (s.schemas.invalidate t).2 } else s

/-- The task of a body. -/
def ofBody (r : Request) : Task :=
  match bodyOf r with
  | .error _ => nothing
  | .ok body =>
    match FilterRequest.ofJson body with
    | .error _ => nothing
    | .ok q => query q

/-- The task of taking out what a query names. -/
def ofDeletion (query : String) : Task :=
  match ((queryPairs query).filter fun p => p.1 = "key").map (·.2) with
  | [] => clear
  | [key] => if key = "" then clear else deleteEntry key
  | _ => nothing

/-- The task for the table that a part of the path names. -/
def ofPart (part : String) (task : String → Task) : Task :=
  match pathText? part with
  | some table => task table
  | none => nothing

/-- The task of a method on a route. -/
def onRoute (r : Request) (query : String) : Route → String → Task
  | .filterQuery, "POST" => ofBody r
  | .cache, "DELETE" => ofDeletion query
  | .cacheClean, "POST" => clean
  | .schema part, "GET" => ofPart part introspect
  | .schema part, "DELETE" => ofPart part forget
  | _, _ => nothing

end Task

/-- The task of a request. -/
def Request.task (r : Request) : Task :=
  if r.method = "OPTIONS" then .nothing
  else
    match Route.ofPath? (targetParts r.target).1 with
    | some route => .onRoute r (targetParts r.target).2 route (if r.method = "HEAD" then "GET" else r.method)
    | none => .nothing

namespace Server

variable (s : FilterService) (now : Nat) (r : Request)

/-! ### The service after a request -/

theorem filterQuery_snd : (filterQuery s now r).2 = (Task.ofBody r).perform s now := by
  unfold filterQuery Task.ofBody
  cases bodyOf r with
  | error e => rfl
  | ok body =>
    cases hrequest : FilterRequest.ofJson body with
    | error cause => simp only [hrequest, Task.perform]
    | ok request =>
      simp only [hrequest, Task.perform]
      cases (s.run now request).1 <;> rfl

theorem deleteFromCache_snd (query : String) :
    (deleteFromCache s query).2 = (Task.ofDeletion query).perform s now := by
  unfold deleteFromCache Task.ofDeletion
  generalize ((queryPairs query).filter fun p => p.1 = "key").map (·.2) = keys
  rcases keys with _ | ⟨key, _ | ⟨other, rest⟩⟩
  · rfl
  · dsimp only
    split <;> rfl
  · rfl

theorem lookUpSchema_snd (table : String) :
    (lookUpSchema s table).2 =
      { s with gateway := ((s.gateway.send (Catalog.columnsStatement (s.tableRef table))).2.send
          (Catalog.tablesStatement (s.tableRef table).project (s.tableRef table).dataset)).2 } := by
  simp only [lookUpSchema, Catalog.fetchColumns, Catalog.listTables]
  split <;> rfl

theorem showSchema_snd (table : String) : (showSchema s table).2 = (Task.introspect table).perform s now := by
  simp only [showSchema, Task.perform]
  cases hvalid : (s.tableRef table).firstInvalid? with
  | some part => simp [TableRef.Valid, hvalid]
  | none => simp [TableRef.Valid, hvalid, lookUpSchema_snd]

theorem forgetSchema_snd (table : String) : (forgetSchema s table).2 = (Task.forget table).perform s now := by
  simp only [forgetSchema, Task.perform]
  cases hvalid : (s.tableRef table).firstInvalid? with
  | some part => simp [TableRef.Valid, hvalid]
  | none => simp [TableRef.Valid, hvalid]

theorem withTable_snd (part : String) {serve : String → Response × FilterService} {task : String → Task}
    (h : ∀ table, (serve table).2 = (task table).perform s now) :
    (withTable s part serve).2 = (Task.ofPart part task).perform s now := by
  unfold withTable Task.ofPart
  cases pathText? part with
  | some table => exact h table
  | none => rfl

theorem serve?_snd (query : String) (route : Route) (method : String) :
    ((serve? s now r query route method).map (·.2)).getD s = (Task.onRoute r query route method).perform s now := by
  unfold serve?
  split
  · rfl
  · exact filterQuery_snd s now r
  · rfl
  · exact deleteFromCache_snd s now query
  · rfl
  · exact withTable_snd s now _ (showSchema_snd s now)
  · exact withTable_snd s now _ (forgetSchema_snd s now)
  · next hhealth hquery hstats hcache hclean hshow hforget =>
    unfold Task.onRoute
    split
    · exact (hquery rfl rfl).elim
    · exact (hcache rfl rfl).elim
    · exact (hclean rfl rfl).elim
    · exact (hshow _ rfl rfl).elim
    · exact (hforget _ rfl rfl).elim
    · rfl

theorem serveRoute_snd (query : String) (route : Route) :
    (serveRoute s now r query route).2 =
      (Task.onRoute r query route (if r.method = "HEAD" then "GET" else r.method)).perform s now := by
  rw [← serve?_snd, serveRoute]
  cases hserved : serve? s now r query route (if r.method = "HEAD" then "GET" else r.method) with
  | some served => rfl
  | none => rfl

/-- A request has its task done. -/
theorem handle_snd : (handle s now r).2 = r.task.perform s now := by
  unfold handle Request.task
  by_cases hoptions : r.method = "OPTIONS"
  · simp [hoptions, Task.perform]
  · simp only [hoptions, if_false]
    cases Route.ofPath? (targetParts r.target).1 with
    | some route => exact serveRoute_snd s now r _ route
    | none => rfl

end Server

/-! ### Runs -/

/-- What can happen to a server. -/
inductive ServerEvent where
  | request (r : Request)
  /-- The warehouse answers in another way: it holds other tables or rows, or it fails or works again. -/
  | change (answer : Warehouse)
  | advance (ms : Nat)

namespace Server

/-- A server that was just started with the settings, with its sweeper. -/
def launch (settings : Settings) (warehouse : Warehouse) (now : Nat) : LiveService :=
  ⟨settings.service warehouse, [settings.sweeper now], now⟩

/-- Answers an event. Only a request has a response. -/
def step (s : LiveService) : ServerEvent → Option Response × LiveService
  | .request r => (some (handle s.service s.now r).1, { s with service := (handle s.service s.now r).2 })
  | .change answer => (none, (s.step (.change answer)).2)
  | .advance ms => (none, (s.step (.advance ms)).2)

theorem step_request (s : LiveService) (r : Request) :
    (step s (.request r)).2 = { s with service := r.task.perform s.service s.now } := by
  rw [step, handle_snd]

end Server

end Audience.Http
