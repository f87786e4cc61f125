import Audience.Proofs.Http.Addressing
import Audience.Proofs.Outcome
import Audience.Proofs.Warehouse.Paging

/-!
What an exchange sends and what comes of it. An exchange that gives rows has posted the statement and asked once for every
further page, each time with what the page before said (`Asks`); its rows are those of all pages in their order. One reply
that cannot be used leaves nothing of the others (`RemoteWarehouse.execute_all_or_none`).
-/

namespace Audience

open Http (queryPairs targetParts)
open Http.Url (Base PathPart pathParts slashed)

namespace RemoteWarehouse

variable {w : RemoteWarehouse} {s : Statement} {fields : List Field} {page : Page} {replies : List Http.Response}
  {reply : Http.Response} {request : Http.Request} {requests : List Http.Request} {pages : List Page}
  {blocks : List (List Row)} {rows : List Row} {token : String} {job : JobReference}

/-! ### Requests -/

/-- Where the pages of a job are. -/
def pagesAddress (w : RemoteWarehouse) (job : JobReference) : String :=
  w.endpoint ++ "/projects/" ++ job.project ++ "/queries/" ++ job.job

/-- What a request for a page says in its query. -/
def pagePairs (token : String) (job : JobReference) : List (String × String) :=
  ("pageToken", token) :: job.location.toList.map fun l => ("location", l)

/-- The request for the page behind one. Token and location are read from its query as they were announced. Project and job
are put into its address as they stand, so they are read from its path where each can be one part of a path. -/
structure Asks (w : RemoteWarehouse) (page : Page) (request : Http.Request) (token : String) (job : JobReference) : Prop where
  announcedToken : page.token = some token
  announcedJob : page.job = some job
  method : request.method = "GET"
  body : request.body = ""
  headers : w.authorization = some request.headers
  target : Http.Url.target? (w.pagesAddress job) (pagePairs token job) = some request.target
  query : pagePairs token job <:+ queryPairs (targetParts request.target).2
  path : Base w.endpoint → PathPart job.project.toList → PathPart job.job.toList →
    (∀ c ∈ job.job.toList.getLast?, 0x20 < c.toNat) →
    ["projects", job.project, "queries", job.job].map some <:+ pathParts request.target

theorem pagesAddress_eq (w : RemoteWarehouse) (job : JobReference) :
    w.pagesAddress job = w.endpoint ++
      String.ofList (slashed ((["projects", job.project, "queries"] ++ [job.job]).map String.toList)) := by
  rw [← String.toList_inj]
  simp [pagesAddress, slashed]

theorem asks_of_pageRequest (hnext : page.next? = some (token, job)) (h : w.pageRequest token job = some request) :
    w.Asks page request token job := by
  obtain ⟨target, htarget, h⟩ := Option.bind_eq_some_iff.mp h
  obtain ⟨headers, hheaders, h⟩ := Option.bind_eq_some_iff.mp h
  obtain rfl := Option.some.inj h
  obtain ⟨t, ht, hnext⟩ := Option.bind_eq_some_iff.mp hnext
  obtain ⟨j, hj, hnext⟩ := Option.bind_eq_some_iff.mp hnext
  obtain ⟨rfl, rfl⟩ := Prod.mk.inj (Option.some.inj hnext)
  have htarget : Http.Url.target? (w.pagesAddress j) (pagePairs t j) = some target := htarget
  refine ⟨ht, hj, rfl, rfl, hheaders, htarget,
    Http.Url.pairs_suffix_of_target? htarget (List.cons_ne_nil _ _), fun hbase hproject hjob hend => ?_⟩
  rw [pagesAddress_eq] at htarget
  refine Http.Url.parts_suffix_of_target? hbase (fun part hpart => ?_) hend htarget (List.cons_ne_nil _ _)
  simp only [List.cons_append, List.nil_append, List.mem_cons, List.not_mem_nil, or_false] at hpart
  rcases hpart with rfl | rfl | rfl | rfl
  · decide
  · exact hproject
  · decide
  · exact hjob

/-- A hash sign ends the path, so what follows it in the name of a job is not asked for: the pages of two jobs are asked
for with one request, and no part of its path is the name. -/
theorem execute_drops_job_behind_hash :
    let first (job : String) : Http.Response := ⟨200, [], "\x7b\"jobComplete\":true,\"pageToken\":\"t1\"," ++
      "\"jobReference\":\x7b\"projectId\":\"segmento\",\"jobId\":\"" ++ job ++ "\"\x7d\x7d"⟩
    let exchange (job : String) : Exchange := execute {} ⟨"SELECT 1", ∅⟩ [first job, ⟨200, [], "\x7b\x7d"⟩]
    (exchange "j#1").result = .ok [] ∧
      (exchange "j#1").sent.map Http.Request.target =
        ["/bigquery/v2/projects/segmento/queries", "/bigquery/v2/projects/segmento/queries/j?pageToken=t1"] ∧
      (∀ request ∈ (exchange "j#1").sent, some "j#1" ∉ pathParts request.target) ∧
      (exchange "j#1").sent = (exchange "j#2").sent := by
  decide +kernel

theorem method_of_queryRequest (h : w.queryRequest s = some request) : request.method = "POST" := by
  obtain ⟨target, -, h⟩ := Option.bind_eq_some_iff.mp h
  obtain ⟨headers, -, h⟩ := Option.bind_eq_some_iff.mp h
  obtain rfl := Option.some.inj h
  rfl

/-- A chain asks once for each of its pages. -/
theorem Chain.asked (h : Chain w fields page replies requests pages blocks) :
    List.Forall₂ (fun page request => ∃ token job, w.Asks page request token job) (page :: pages).dropLast requests := by
  induction h with
  | last => exact .nil
  | further announced asked _ _ _ ih => exact .cons ⟨_, _, asks_of_pageRequest announced asked⟩ ih

/-! ### Replies -/

theorem pageOf_eq_ok_iff :
    pageOf reply = .ok page ↔
      reply.isFinal = true ∧ (200 ≤ reply.status ∧ reply.status < 300) ∧
        Page.read? reply.content = some page := by
  unfold pageOf
  cases reply.isFinal <;> by_cases hstatus : 200 ≤ reply.status ∧ reply.status < 300 <;>
    cases Page.read? reply.content <;> simp [hstatus]

theorem rowsOf_eq_ok_iff : rowsOf fields page = .ok rows ↔ Field.decodeRows fields page.rows = .ok rows :=
  mapError_eq_ok_iff

/-- What an exchange that gives rows has sent and read, and the rows of each page. -/
structure Collects (w : RemoteWarehouse) (s : Statement) (replies : List Http.Response) (post : Http.Request)
    (gets : List Http.Request) (first : Page) (later : List Page) (blocks : List (List Row)) : Prop where
  posted : w.queryRequest s = some post
  method : post.method = "POST"
  read : (replies.take (post :: gets).length).map pageOf = (first :: later).map .ok
  complete : first.complete = true
  asked : List.Forall₂ (fun page get => ∃ token job, w.Asks page get token job) (first :: later).dropLast gets
  last : ∀ page, (first :: later).getLast? = some page → page.next? = none
  decoded : List.Forall₂ (fun page block => Field.decodeRows first.fields page.rows = .ok block) (first :: later) blocks

theorem exists_collects (h : (w.execute s replies).result = .ok rows) :
    ∃ post gets first later blocks, (w.execute s replies).sent = post :: gets ∧ rows = blocks.flatten ∧
      Collects w s replies post gets first later blocks := by
  obtain ⟨pages, hgathered⟩ := gathered_of_execute h
  generalize (w.execute s replies).sent = sent at hgathered
  cases hgathered with
  | @intro post first _ _ gets later front blocks posted read complete decoded chain =>
    refine ⟨post, gets, first, later, front :: blocks, rfl, rfl, posted, method_of_queryRequest posted, ?_, complete,
      chain.asked, fun page => chain.next?_last, ?_⟩
    · rw [List.length_cons, List.take_succ_cons, List.map_cons, List.map_cons, read, chain.read]
    · exact .cons (rowsOf_eq_ok_iff.mp decoded) (chain.decoded.imp fun _ _ => rowsOf_eq_ok_iff.mp)

/-- The reply at a position cannot be used. -/
inductive Spoils (replies : List Http.Response) : Nat → Prop
  | status (i : Nat) (reply : Http.Response) (here : replies[i]? = some reply)
      (unsuccessful : ¬(200 ≤ reply.status ∧ reply.status < 300)) : Spoils replies i
  | unreadable (i : Nat) (reply : Http.Response) (here : replies[i]? = some reply)
      (unread : Page.read? reply.content = none) : Spoils replies i
  | unfinished (reply : Http.Response) (first : Page) (here : replies[0]? = some reply) (read : pageOf reply = .ok first)
      (incomplete : first.complete = false) : Spoils replies 0
  | row (i : Nat) (start reply : Http.Response) (first page : Page) (cells : List Json) (front : replies[0]? = some start)
      (fields : pageOf start = .ok first) (here : replies[i]? = some reply) (read : pageOf reply = .ok page)
      (mem : cells ∈ page.rows) (undecoded : ∀ row, Field.decodeRow first.fields cells ≠ .ok row) : Spoils replies i

/-- A reply that was read holds the page at its position. -/
theorem page_of_read {n i : Nat} (hread : (replies.take n).map pageOf = pages.map .ok) (hi : i < n)
    (hreply : replies[i]? = some reply) : ∃ page, pages[i]? = some page ∧ pageOf reply = .ok page := by
  have hat := congrArg (·[i]?) hread
  simp only [List.getElem?_map, List.getElem?_take, if_pos hi, hreply, Option.map_some] at hat
  obtain ⟨page, hpage, hok⟩ := Option.map_eq_some_iff.mp hat.symm
  exact ⟨page, hpage, hok.symm⟩

theorem Collects.not_spoils {post : Http.Request} {gets : List Http.Request} {first : Page} {later : List Page}
    (h : Collects w s replies post gets first later blocks) {i : Nat} (hi : i < (post :: gets).length) :
    ¬Spoils replies i := by
  intro hspoils
  cases hspoils with
  | status _ reply here unsuccessful =>
    obtain ⟨page, -, hpage⟩ := page_of_read h.read hi here
    exact unsuccessful (pageOf_eq_ok_iff.mp hpage).2.1
  | unreadable _ reply here unread =>
    obtain ⟨page, -, hpage⟩ := page_of_read h.read hi here
    rw [(pageOf_eq_ok_iff.mp hpage).2.2] at unread
    cases unread
  | unfinished reply start here read incomplete =>
    obtain ⟨page, hfirst, hpage⟩ := page_of_read h.read hi here
    obtain rfl := Option.some.inj hfirst
    obtain rfl := Except.ok.inj (read.symm.trans hpage)
    rw [h.complete] at incomplete
    cases incomplete
  | row _ start reply first' page cells front fields here read mem undecoded =>
    obtain ⟨_, hfirst, hstart⟩ := page_of_read h.read (Nat.zero_lt_succ _) front
    obtain rfl := Option.some.inj hfirst
    obtain rfl := Except.ok.inj (fields.symm.trans hstart)
    obtain ⟨page', hpage, hreply⟩ := page_of_read h.read hi here
    obtain rfl := Except.ok.inj (read.symm.trans hreply)
    obtain ⟨hlt, rfl⟩ := List.getElem?_eq_some_iff.mp hpage
    have hblock := h.decoded.get hlt (h.decoded.length_eq ▸ hlt)
    obtain ⟨row, hrow⟩ := exists_mapM_eq_ok_iff.mp ⟨_, hblock⟩ cells mem
    exact undecoded row hrow

/-- An exchange gives the rows of every page that it read, in their order and read with the fields of the first page,
having asked for each with what the page before announced; or it gives an error, as soon as one reply to it cannot be
used. -/
theorem execute_all_or_none (w : RemoteWarehouse) (s : Statement) (replies : List Http.Response) :
    (∀ rows, (w.execute s replies).result = .ok rows →
      ∃ post gets first later blocks, (w.execute s replies).sent = post :: gets ∧ rows = blocks.flatten ∧
        Collects w s replies post gets first later blocks) ∧
    ∀ i < (w.execute s replies).sent.length, Spoils replies i → ∃ e, (w.execute s replies).result = .error e := by
  refine ⟨fun rows => exists_collects, fun i hi hspoils => exists_eq_error_iff.mpr fun rows hok => ?_⟩
  obtain ⟨post, gets, first, later, blocks, hsent, -, hcollects⟩ := exists_collects hok
  rw [hsent] at hi
  exact hcollects.not_spoils hi hspoils

/-- Two pages give their rows in order. When the second one does not come, there is no answer. -/
theorem execute_all_or_none_of_two_pages :
    let first : Http.Response := ⟨200, [], "\x7b\"jobComplete\":true," ++
      "\"schema\":\x7b\"fields\":[\x7b\"name\":\"edad\",\"type\":\"INTEGER\"\x7d]\x7d," ++
      "\"rows\":[\x7b\"f\":[\x7b\"v\":\"30\"\x7d]\x7d],\"pageToken\":\"a b\"," ++
      "\"jobReference\":\x7b\"projectId\":\"p\",\"jobId\":\"j-1\",\"location\":\"EU\"\x7d\x7d"⟩
    let second : Http.Response := ⟨200, [], "\x7b\"rows\":[\x7b\"f\":[\x7b\"v\":\"31\"\x7d]\x7d]\x7d"⟩
    let s : Statement := ⟨"SELECT edad FROM t", ∅⟩
    (∃ post gets page later blocks, (execute {} s [first, second]).sent = post :: gets ∧
      blocks.flatten = [NameMap.ofList [("edad", .int64 30)], NameMap.ofList [("edad", .int64 31)]] ∧
      Collects {} s [first, second] post gets page later blocks) ∧
    ∃ e, (execute {} s [first, ⟨500, [], ""⟩]).result = .error e := by
  intro first second s
  have hok : (execute {} s [first, second]).result =
      .ok [NameMap.ofList [("edad", .int64 30)], NameMap.ofList [("edad", .int64 31)]] := by decide +kernel +revert
  have hsent : (execute {} s [first, ⟨500, [], ""⟩]).sent.length = 2 := by decide +kernel +revert
  obtain ⟨hcollects, -⟩ := execute_all_or_none {} s [first, second]
  obtain ⟨-, hspoilt⟩ := execute_all_or_none {} s [first, ⟨500, [], ""⟩]
  obtain ⟨post, gets, page, later, blocks, hsent', hrows, hcollects⟩ := hcollects _ hok
  exact ⟨⟨post, gets, page, later, blocks, hsent', hrows.symm, hcollects⟩,
    hspoilt 1 (hsent.symm ▸ Nat.one_lt_two) (.status 1 _ rfl (by decide))⟩

end RemoteWarehouse

end Audience
