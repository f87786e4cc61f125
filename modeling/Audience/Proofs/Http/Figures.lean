import Audience.Proofs.Http.Lifetime
import Audience.Proofs.Json.Members
import Audience.Service.Startup
import Audience.Warehouse.Memory

/-!
Figures in milliseconds. The settings count in seconds, in 64 bits; what is reported and what is sent counts in
milliseconds, in 64 bits again. So a figure is the number of milliseconds without the multiples of 2^64 in it
(`ShowsMilliseconds`), and that is the number itself for as many seconds as 64 bits hold in milliseconds. No settings are
refused for having more.
-/

namespace Audience

open Json (Shows)

/-- The most seconds that 64 bits hold in milliseconds: some 584 million years. -/
def mostSeconds : Nat := 18446744073709551

theorem milliseconds_mod_eq_iff {seconds : UInt64} :
    Settings.milliseconds seconds % UInt64.size = Settings.milliseconds seconds ↔ seconds.toNat ≤ mostSeconds := by
  have hlt := seconds.toNat_lt
  simp only [Settings.milliseconds, mostSeconds, UInt64.size]
  omega

/-- The text shows the milliseconds of the seconds as far as 64 bits hold them, so it shows their number only where there
are not too many. -/
structure ShowsMilliseconds (text : String) (names : List String) (seconds : UInt64) : Prop where
  low : Shows text names (Settings.milliseconds seconds % UInt64.size)
  exact_iff : Shows text names (Settings.milliseconds seconds) ↔ seconds.toNat ≤ mostSeconds

theorem showsMilliseconds_of_shows {text : String} {names : List String} {seconds : UInt64}
    (h : Shows text names (Settings.milliseconds seconds % UInt64.size)) : ShowsMilliseconds text names seconds := by
  refine ⟨h, fun hexact => milliseconds_mod_eq_iff.mp (h.unique hexact), fun hle => ?_⟩
  rwa [milliseconds_mod_eq_iff.mpr hle] at h

/-! ### What is sent -/

/-- The request for a statement carries its time limit. -/
theorem RemoteWarehouse.showsMilliseconds_of_head? {w : RemoteWarehouse} {seconds : UInt64} {statement : Statement}
    {replies : List Http.Response} {request : Http.Request} (htimeout : w.timeout = Settings.milliseconds seconds)
    (h : (w.execute statement replies).sent.head? = some request) :
    ShowsMilliseconds request.body ["timeoutMs"] seconds := by
  unfold execute at h
  cases hrequest : w.queryRequest statement with
  | none =>
    rw [hrequest] at h
    cases h
  | some r =>
    rw [hrequest] at h
    obtain rfl : r = request := Option.some.inj h
    simp only [queryRequest, Option.bind_eq_bind, Option.bind_eq_some_iff, Option.pure_def, Option.some.injEq] at hrequest
    obtain ⟨target, -, headers, -, rfl⟩ := hrequest
    exact showsMilliseconds_of_shows ⟨_, _, rfl, rfl, by simp [QueryJob.timeoutMs, QueryJob.ofStatement, htimeout]⟩

namespace Http

/-! ### What is reported -/

theorem shows_natJson {j : Json} {names : List String} {n : Nat} (hn : n < UInt64.size)
    (h : j.at? names = some (natJson n)) : Shows j.text names n := by
  have hrange : -0x8000000000000000 ≤ (n : Int) ∧ (n : Int) < 0x10000000000000000 := by
    simp only [UInt64.size] at hn
    omega
  rw [natJson, Json.ofInt?, dif_pos hrange] at h
  exact Json.shows_text h rfl

namespace Server

/-- The figures of the cache are shown when they are asked for and when the cache is cleaned. -/
theorem showsMilliseconds_of_calls {s : LiveService} {r : Request} {seconds : UInt64}
    (htime : s.results.timeToLive = Settings.milliseconds seconds)
    (h : r.Calls "GET" .cacheStats ∨ r.Calls "POST" .cacheClean) :
    ShowsMilliseconds (handle s.service s.now r).1.body ["stats", "ttl"] seconds := by
  have hlow : Settings.milliseconds seconds % UInt64.size < UInt64.size := Nat.mod_lt _ (by decide)
  rw [← htime] at hlow
  refine showsMilliseconds_of_shows ?_
  rw [← htime]
  rcases h with h | h
  · rw [handle_of_calls h (by decide) (by decide) rfl]
    exact shows_natJson hlow rfl
  · rw [handle_of_calls h (by decide) (by decide) rfl]
    exact shows_natJson hlow rfl

/-- After all that happened to a server, the time to live that it reports is that of its settings in milliseconds, and so
is the time limit that goes with every statement, as far as 64 bits hold them: exactly for up to `mostSeconds` seconds. -/
theorem shows_milliseconds (settings : Settings) (seconds : UInt64) (warehouse : Warehouse) (start : Nat)
    (es : List SharedEvent) (htimeout : settings.warehouse.timeout = Settings.milliseconds seconds) :
    (∀ r, r.Calls "GET" .cacheStats ∨ r.Calls "POST" .cacheClean →
        ShowsMilliseconds (handle (reached settings warehouse start es).service (reached settings warehouse start es).now
          r).1.body ["stats", "ttl"] settings.timeToLive) ∧
      ∀ statement replies request, (settings.warehouse.execute statement replies).sent.head? = some request →
        ShowsMilliseconds request.body ["timeoutMs"] seconds :=
  ⟨fun _ h => showsMilliseconds_of_calls (sound_reached settings warehouse start es).timeToLive_eq h,
    fun _ _ _ h => RemoteWarehouse.showsMilliseconds_of_head? htimeout h⟩

/-- The time to live is set to one second too many, and the time limit of statements is not set. -/
def overlong : Environment := fun name => if name = "SEGMENTO_CACHE_TTL_SECS" then some "18446744073709552" else none

theorem shows_milliseconds_of_environment :
    overlong.settings.timeToLive = 18446744073709552 ∧
      ShowsMilliseconds (handle (reached overlong.settings MemoryWarehouse.empty.answer 0 [.served (.advance 5)]).service
          (reached overlong.settings MemoryWarehouse.empty.answer 0 [.served (.advance 5)]).now
          ⟨"GET", "/cache/stats", [], ""⟩).1.body ["stats", "ttl"] overlong.settings.timeToLive :=
  ⟨by decide +kernel, (shows_milliseconds overlong.settings 30 MemoryWarehouse.empty.answer 0 [.served (.advance 5)]
    (by decide +kernel)).1 ⟨"GET", "/cache/stats", [], ""⟩ (.inl (by decide +kernel))⟩

/-- One second too many, twice. -/
def excessive : Settings :=
  { timeToLive := 18446744073709552, warehouse := { timeout := Settings.milliseconds 18446744073709552 } }

/-- Settings that are not refused, with figures of 384 milliseconds in place of 18446744073709552000. -/
theorem excessive_is_not_refused :
    excessive.validate = .ok () ∧
      (Shows (handle (reached excessive MemoryWarehouse.empty.answer 0 []).service 0 ⟨"GET", "/cache/stats", [], ""⟩).1.body
          ["stats", "ttl"] 384 ∧
        ¬Shows (handle (reached excessive MemoryWarehouse.empty.answer 0 []).service 0
          ⟨"GET", "/cache/stats", [], ""⟩).1.body ["stats", "ttl"] 18446744073709552000) ∧
      ∃ request, (excessive.warehouse.execute ⟨"SELECT 1", {}⟩ []).sent = [request] ∧
        Shows request.body ["timeoutMs"] 384 ∧ ¬Shows request.body ["timeoutMs"] 18446744073709552000 := by
  have hmany : ¬(18446744073709552 : UInt64).toNat ≤ mostSeconds := by decide
  have hreported := showsMilliseconds_of_calls (s := reached excessive MemoryWarehouse.empty.answer 0 [])
    (r := ⟨"GET", "/cache/stats", [], ""⟩) (sound_reached excessive _ 0 []).timeToLive_eq (.inl (by decide +kernel))
  obtain ⟨request, hsent⟩ : ∃ request, (excessive.warehouse.execute ⟨"SELECT 1", {}⟩ []).sent = [request] :=
    List.length_eq_one_iff.mp (by decide +kernel)
  have hcarried := RemoteWarehouse.showsMilliseconds_of_head? (w := excessive.warehouse) rfl
    (congrArg List.head? hsent)
  exact ⟨rfl, ⟨hreported.low, mt hreported.exact_iff.mp hmany⟩, request, hsent, hcarried.low,
    mt hcarried.exact_iff.mp hmany⟩

end Server

end Http

end Audience
