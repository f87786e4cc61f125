import Audience.Warehouse.Remote
import Mathlib.Data.List.Forall2

/-!
The pages that make an answer. An exchange that ends well has read a chain of pages (`RemoteWarehouse.Chain`): each
page announces the next one, which was asked for under the token and the job of the page before, and the last
announces none. The rows are those of all pages in order. A page announces another one by a token and a job
together, and only the first page has to be that of a query that is done; so the rows can be short of what the
pages say there is, exactly where a later page is not done or the last one has a token without a job.
-/

namespace Audience

namespace Exchange

theorem withRows_eq_ok_iff {x : Exchange} {front rows : List Row} :
    (x.withRows front).result = .ok rows ↔ ∃ rest, x.result = .ok rest ∧ rows = front ++ rest := by
  cases hx : x.result <;> simp [withRows, hx, Except.map, eq_comm]

end Exchange

namespace RemoteWarehouse

variable {w : RemoteWarehouse} {s : Statement} {fields : List Field} {page : Page}
  {replies : List Http.Response} {rows : List Row}

/-- The pages behind one, with the requests for them and the rows that they bring, read with the fields. -/
inductive Chain (w : RemoteWarehouse) (fields : List Field) :
    Page → List Http.Response → List Http.Request → List Page → List (List Row) → Prop
  | last {page : Page} {replies : List Http.Response} (announced : page.next? = none) :
      Chain w fields page replies [] [] []
  | further {page next : Page} {token : String} {job : JobReference} {request : Http.Request}
      {reply : Http.Response} {replies : List Http.Response} {requests : List Http.Request} {pages : List Page}
      {rows : List Row} {blocks : List (List Row)} (announced : page.next? = some (token, job))
      (asked : w.pageRequest token job = some request) (read : pageOf reply = .ok next)
      (decoded : rowsOf fields next = .ok rows) (more : Chain w fields next replies requests pages blocks) :
      Chain w fields page (reply :: replies) (request :: requests) (next :: pages) (rows :: blocks)

/-- Following the announcements ends well only at the end of a chain. -/
theorem chain_of_follow (h : (w.follow fields page replies).result = .ok rows) :
    ∃ pages blocks, Chain w fields page replies (w.follow fields page replies).sent pages blocks ∧
      rows = blocks.flatten := by
  induction replies generalizing page rows with
  | nil =>
    unfold follow at h ⊢
    split at h
    · next hnext =>
      cases h
      exact ⟨[], [], .last hnext, rfl⟩
    · split at h <;> cases h
  | cons reply replies ih =>
    unfold follow at h ⊢
    split at h
    · next hnext =>
      cases h
      exact ⟨[], [], .last hnext, rfl⟩
    · next token job hnext =>
      split at h
      · cases h
      · next request hrequest =>
        simp only [Exchange.after] at h ⊢
        split at h
        · cases h
        · next next hread =>
          split at h
          · cases h
          · next front hdecoded =>
            obtain ⟨rest, hrest, rfl⟩ := Exchange.withRows_eq_ok_iff.mp h
            obtain ⟨pages, blocks, hchain, rfl⟩ := ih hrest
            exact ⟨next :: pages, front :: blocks, .further hnext hrequest hread hdecoded hchain, rfl⟩

namespace Chain

variable {requests : List Http.Request} {pages : List Page} {blocks : List (List Row)}

theorem read (h : Chain w fields page replies requests pages blocks) :
    (replies.take requests.length).map pageOf = pages.map .ok := by
  induction h with
  | last => rfl
  | further _ _ read _ _ ih => simp [read, ih]

theorem decoded (h : Chain w fields page replies requests pages blocks) :
    List.Forall₂ (fun page rows => rowsOf fields page = .ok rows) pages blocks := by
  induction h with
  | last => exact .nil
  | further _ _ _ decoded _ ih => exact .cons decoded ih

/-- The last page of a chain announces none. -/
theorem next?_last (h : Chain w fields page replies requests pages blocks) {final : Page}
    (hfinal : (page :: pages).getLast? = some final) : final.next? = none := by
  induction h with
  | last announced =>
    obtain rfl := Option.some.inj hfinal
    exact announced
  | further _ _ _ _ _ ih => exact ih (by simpa using hfinal)

theorem next?_isSome (h : Chain w fields page replies requests pages blocks) :
    ∀ x ∈ (page :: pages).dropLast, x.next?.isSome := by
  induction h with
  | last => simp
  | further announced _ _ _ _ ih =>
    intro x hx
    rw [List.dropLast_cons_cons, List.mem_cons] at hx
    rcases hx with rfl | hx
    · simp [announced]
    · exact ih x hx

end Chain

/-- The rows of an answer, with the requests that were sent and the pages that they brought. -/
inductive Gathered (w : RemoteWarehouse) (s : Statement) :
    List Http.Response → List Http.Request → List Page → List Row → Prop
  | intro {post : Http.Request} {first : Page} {reply : Http.Response} {replies : List Http.Response}
      {requests : List Http.Request} {later : List Page} {front : List Row} {blocks : List (List Row)}
      (posted : w.queryRequest s = some post) (read : pageOf reply = .ok first) (complete : first.complete = true)
      (decoded : rowsOf first.fields first = .ok front)
      (chain : Chain w first.fields first replies requests later blocks) :
      Gathered w s (reply :: replies) (post :: requests) (first :: later) (front :: blocks).flatten

theorem gathered_of_execute (h : (w.execute s replies).result = .ok rows) :
    ∃ pages, Gathered w s replies (w.execute s replies).sent pages rows := by
  unfold execute at h ⊢
  split at h
  · cases h
  · next post hpost =>
    simp only [Exchange.after] at h ⊢
    cases replies with
    | nil => cases h
    | cons reply replies =>
      simp only [readPages] at h ⊢
      split at h
      · cases h
      · next first hread =>
        split at h
        · next hcomplete =>
          split at h
          · cases h
          · next front hdecoded =>
            obtain ⟨rest, hrest, rfl⟩ := Exchange.withRows_eq_ok_iff.mp h
            obtain ⟨later, blocks, hchain, rfl⟩ := chain_of_follow hrest
            rw [if_pos hcomplete]
            exact ⟨first :: later, .intro hpost hread hcomplete hdecoded hchain⟩
        · cases h

/-! ### What the pages announce -/

/-- The pages that an exchange has read: those in the replies to its requests. -/
def pagesRead (w : RemoteWarehouse) (s : Statement) (replies : List Http.Response) : List Page :=
  (replies.take (w.execute s replies).sent.length).filterMap fun reply => (pageOf reply).toOption

/-- The pages are all of a query that is done, and the last one announces no other. -/
structure NothingMissing (pages : List Page) : Prop where
  complete : ∀ page ∈ pages, page.complete = true
  last : ∀ page, pages.getLast? = some page → page.token = none

theorem pagesRead_eq {requests : List Http.Request} {pages : List Page}
    (h : Gathered w s replies requests pages rows) (hsent : (w.execute s replies).sent = requests) :
    w.pagesRead s replies = pages := by
  cases h with
  | intro _ read _ _ chain =>
    have hmap := chain.read
    rw [pagesRead, hsent, List.length_cons, List.take_succ_cons, List.filterMap_cons, read]
    refine congrArg (List.cons _) ?_
    have hoption := congrArg (List.filterMap Except.toOption) hmap
    rw [List.filterMap_map, List.filterMap_map] at hoption
    refine Eq.trans hoption (Eq.trans (List.filterMap_congr fun x _ => ?_) List.filterMap_some)
    rfl

theorem next?_eq_none_iff : page.next? = none ↔ page.token = none ∨ page.job = none := by
  cases htoken : page.token <;> cases hjob : page.job <;> simp [Page.next?, htoken, hjob]

/-- An answer has the rows of a chain of pages up to one that announces none, read with the fields of the first.
It is all that the pages say there is exactly when no page after the first is one of a query that is not done, and
the last one does not have a token without a job. -/
theorem nothingMissing_iff (w : RemoteWarehouse) (s : Statement) (replies : List Http.Response) (rows : List Row)
    (h : (w.execute s replies).result = .ok rows) :
    (∃ first later blocks, w.pagesRead s replies = first :: later ∧ first.complete = true ∧
        (∀ page ∈ (first :: later).dropLast, page.next?.isSome) ∧
        (∀ page, (first :: later).getLast? = some page → page.next? = none) ∧
        List.Forall₂ (fun page rows => rowsOf first.fields page = .ok rows) (first :: later) blocks ∧
        rows = blocks.flatten) ∧
      (NothingMissing (w.pagesRead s replies) ↔
        (∀ page ∈ (w.pagesRead s replies).tail, page.complete = true) ∧
          ∀ page, (w.pagesRead s replies).getLast? = some page → page.job = none → page.token = none) := by
  obtain ⟨pages, hgathered⟩ := gathered_of_execute h
  rw [pagesRead_eq hgathered rfl]
  generalize (w.execute s replies).sent = requests at hgathered
  cases hgathered with
  | @intro _ first _ _ _ later front blocks _ _ complete decoded chain =>
    have hlast : ∀ page, (first :: later).getLast? = some page → page.next? = none := fun _ => chain.next?_last
    refine ⟨⟨first, later, front :: blocks, rfl, complete, chain.next?_isSome, hlast, .cons decoded chain.decoded, rfl⟩,
      ⟨fun hall => ⟨fun page hpage => hall.complete page (List.mem_cons_of_mem _ hpage), fun page hpage _ =>
        hall.last page hpage⟩, ?_⟩⟩
    rintro ⟨hcomplete, htoken⟩
    refine ⟨fun page hpage => ?_, fun page hpage => ?_⟩
    · rcases List.mem_cons.mp hpage with rfl | hpage
      · exact complete
      · exact hcomplete page hpage
    · rcases next?_eq_none_iff.mp (hlast page hpage) with hnone | hnone
      · exact hnone
      · exact htoken page hpage hnone

/-- One page with a token and no job: it is the whole answer, though it announces another one. -/
theorem nothingMissing_iff_of_token_without_job :
    ∃ replies rows, (execute {} ⟨"SELECT 1", ∅⟩ replies).result = .ok rows ∧
      ¬NothingMissing (pagesRead {} ⟨"SELECT 1", ∅⟩ replies) := by
  let reply : Http.Response := ⟨200, [], "\x7b\"jobComplete\":true,\"pageToken\":\"t1\"\x7d"⟩
  have hok : (execute {} ⟨"SELECT 1", ∅⟩ [reply]).result = .ok [] := by decide +kernel
  have hread : (pagesRead {} ⟨"SELECT 1", ∅⟩ [reply]).getLast?.map (fun page => (page.token, page.job)) =
      some (some "t1", none) := by decide +kernel
  refine ⟨[reply], [], hok, fun hall => ?_⟩
  obtain ⟨-, htoken⟩ := (nothingMissing_iff {} ⟨"SELECT 1", ∅⟩ [reply] [] hok).2.mp hall
  obtain ⟨page, hpage, heq⟩ := Option.map_eq_some_iff.mp hread
  obtain ⟨hsome, hnone⟩ := Prod.mk.inj heq
  rw [htoken page hpage hnone] at hsome
  cases hsome

/-- Behind a page of a query that is done comes one of a query that is not: the answer has the rows of the first. -/
theorem not_nothingMissing_behind_unfinished_page :
    ¬∀ (w : RemoteWarehouse) (s : Statement) (replies : List Http.Response) (rows : List Row),
      (w.execute s replies).result = .ok rows → NothingMissing (w.pagesRead s replies) := by
  intro h
  let first : Http.Response := ⟨200, [], "\x7b\"jobComplete\":true," ++
    "\"schema\":\x7b\"fields\":[\x7b\"name\":\"edad\",\"type\":\"INTEGER\"\x7d]\x7d," ++
    "\"rows\":[\x7b\"f\":[\x7b\"v\":\"30\"\x7d]\x7d]," ++
    "\"pageToken\":\"t1\",\"jobReference\":\x7b\"projectId\":\"segmento\",\"jobId\":\"j1\"\x7d\x7d"⟩
  let second : Http.Response := ⟨200, [], "\x7b\"jobComplete\":false\x7d"⟩
  have hread : (execute {} ⟨"SELECT edad FROM t", ∅⟩ [first, second]).result = .ok [NameMap.ofList [("edad", .int64 30)]] ∧
      (pagesRead {} ⟨"SELECT edad FROM t", ∅⟩ [first, second]).map Page.complete = [true, false] := by
    decide +kernel
  have hall := h {} ⟨"SELECT edad FROM t", ∅⟩ [first, second] _ hread.1
  have hmem : false ∈ (pagesRead {} ⟨"SELECT edad FROM t", ∅⟩ [first, second]).map Page.complete := by
    rw [hread.2]
    decide
  obtain ⟨page, hpage, hfalse⟩ := List.mem_map.mp hmem
  rw [hall.complete page hpage] at hfalse
  cases hfalse

end RemoteWarehouse

end Audience
