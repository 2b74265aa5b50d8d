import SqlGateway.Config.Source
import SqlGateway.Proofs.Session.Step

/-!
# The life of a configuration cache

Any sequence of calls on a cache before a source whose answers change and fail
as they like, with time going by between the calls.  Whether the source is asked
is told by what was loaded since the cache was last invalidated, and when.

    a call asks the source   iff   no load less than ttl ago, since invalidated
-/

namespace SqlGateway

variable {τ : Type}

/-! ## Algorithm -/

/-- A question put to a source: when it was answered, and how. -/
structure Asked where
  time : Nat
  result : Except ConfigError Configs

def Asked.loaded? (a : Asked) : Option Loaded :=
  match a.result with
  | .ok configs => some ⟨a.time, configs⟩
  | .error _ => none

/-- The source with a record of what it is asked. -/
def ConfigSource.recorded (clock : τ → Nat) (source : ConfigSource τ) :
    ConfigM (List Asked × τ) Configs := do
  let (asked, world) ← MonadState.get
  let (result, world) := source.run world
  set (asked ++ [⟨clock world, result⟩], world)
  MonadExcept.ofExcept result

/-- What a caller may do with a cache. -/
inductive CacheCall where
  | load
  | get (name : String)
  | invalidate

/-- What a call hands over. -/
inductive CacheReply where
  | configs (result : Except ConfigError Configs)
  | config (result : Except ConfigError InstanceConfig)
  | invalidated

/-- One call of a history: the cache and the world before and after it, and what the source was
asked. -/
structure CacheVisit (τ : Type) where
  call : CacheCall
  before : Cache
  found : τ
  reply : CacheReply
  asked : List Asked
  after : Cache
  world : τ

namespace CacheCall

/-- All calls but `invalidate` want configurations. -/
def reads : CacheCall → Bool
  | .invalidate => false
  | _ => true

/-- What a call makes of the configurations. -/
def shows (result : Except ConfigError Configs) : CacheCall → CacheReply
  | .load => .configs result
  | .get name => .config (result.bind fun configs => ConfigSource.find configs name)
  | .invalidate => .invalidated

def visit (clock : τ → Nat) (source : ConfigSource τ) (c : Cache) (w : τ) (call : CacheCall) :
    CacheVisit τ :=
  let cached := Cache.load (fun r => clock r.2) (source.recorded clock)
  match call with
  | .load =>
    let (result, after, asked, world) := cached.run (c, [], w)
    ⟨call, c, w, .configs result, asked, after, world⟩
  | .get name =>
    let (result, after, asked, world) := (ConfigSource.get cached name).run (c, [], w)
    ⟨call, c, w, .config result, asked, after, world⟩
  | .invalidate => ⟨call, c, w, .invalidated, [], c.invalidate, w⟩

end CacheCall

/-- The calls one after the other, each with the world that it finds. -/
def Cache.history (clock : τ → Nat) (source : ConfigSource τ) :
    List (τ × CacheCall) → Cache → List (CacheVisit τ)
  | [], _ => []
  | (w, call) :: turns, c =>
    let v := call.visit clock source c w
    v :: history clock source turns v.after

namespace CacheVisit

/-- What the clock says before and after each visit. -/
def readings (clock : τ → Nat) (visits : List (CacheVisit τ)) : List Nat :=
  visits.flatMap fun v => [clock v.found, clock v.world]

/-- What was loaded since the cache was last invalidated, the latest last. -/
def loads (visits : List (CacheVisit τ)) : List Loaded :=
  (visits.reverse.takeWhile fun v => v.call.reads).reverse.flatMap fun v =>
    v.asked.filterMap Asked.loaded?

/-- The source was asked and failed. -/
def Fails (v : CacheVisit τ) : Prop :=
  ∃ time e, ⟨time, .error e⟩ ∈ v.asked

/-- What a visit may come to after the visits `earlier`, on a cache that was new before them. -/
structure Lawful (clock : τ → Nat) (source : ConfigSource τ) (ttl : Nat)
    (earlier : List (CacheVisit τ)) (v : CacheVisit τ) : Prop where
  invalidated : v.call.reads = false → v.reply = .invalidated ∧ v.asked = [] ∧ v.world = v.found
  /-- The source is left alone if and only if something was loaded less than `ttl` ago. -/
  spared : v.call.reads = true →
    (v.asked = [] ↔ ∃ l ∈ loads earlier, clock v.found < l.time + ttl)
  /-- Then that is the answer. -/
  cached : v.call.reads = true → ∀ l ∈ loads earlier, clock v.found < l.time + ttl →
    v.reply = v.call.shows (.ok l.configs) ∧ v.after = v.before ∧ v.world = v.found
  /-- Else the source is asked once, and its answer is the answer. -/
  asked : v.call.reads = true → v.asked ≠ [] → ∃ result, source.run v.found = (result, v.world) ∧
    v.asked = [⟨clock v.world, result⟩] ∧ v.reply = v.call.shows result
  failed : ∀ time e, ⟨time, .error e⟩ ∈ v.asked →
    v.reply = v.call.shows (.error e) ∧ v.after = v.before
  /-- After a failure the next call asks again. -/
  retried : ∀ u, earlier.getLast? = some u → u.Fails → v.call.reads = true → v.asked ≠ []
  /-- No answer is as old as `ttl`. -/
  young : v.call.reads = true → 0 < ttl → v.Fails ∨
    ∃ l ∈ loads (earlier ++ [v]), v.reply = v.call.shows (.ok l.configs) ∧
      clock v.world < l.time + ttl
  reloaded : v.call.reads = true → ttl = 0 → v.asked.length = 1

end CacheVisit

/-! ## One call -/

/-- Everything that a call can come to. -/
inductive CacheVisit.Comes (clock : τ → Nat) (source : ConfigSource τ) (c : Cache) (w : τ)
    (call : CacheCall) : CacheVisit τ → Prop where
  | invalidated (h : call.reads = false) :
      Comes clock source c w call ⟨call, c, w, .invalidated, [], c.invalidate, w⟩
  | cached (l : Loaded) (hreads : call.reads = true) (h : c.loaded = some l)
      (hfresh : clock w - l.time < c.ttl) :
      Comes clock source c w call ⟨call, c, w, call.shows (.ok l.configs), [], c, w⟩
  | loaded (configs : Configs) (w' : τ) (hreads : call.reads = true)
      (hstale : ∀ l, c.loaded = some l → ¬ clock w - l.time < c.ttl)
      (h : source.run w = (.ok configs, w')) :
      Comes clock source c w call ⟨call, c, w, call.shows (.ok configs),
        [⟨clock w', .ok configs⟩], { c with loaded := some ⟨clock w', configs⟩ }, w'⟩
  | failed (e : ConfigError) (w' : τ) (hreads : call.reads = true)
      (hstale : ∀ l, c.loaded = some l → ¬ clock w - l.time < c.ttl)
      (h : source.run w = (.error e, w')) :
      Comes clock source c w call ⟨call, c, w, call.shows (.error e),
        [⟨clock w', .error e⟩], c, w'⟩

namespace Cache

theorem fresh?_eq_some {c : Cache} {now : Nat} {configs : Configs}
    (h : c.fresh? now = some configs) :
    ∃ l, c.loaded = some l ∧ now - l.time < c.ttl ∧ configs = l.configs := by
  unfold fresh? at h
  split at h
  · next l hl =>
    split at h
    · next hfresh =>
      cases h
      exact ⟨l, hl, hfresh, rfl⟩
    · cases h
  · cases h

theorem not_fresh {c : Cache} {now : Nat} (h : c.fresh? now = none) (l : Loaded)
    (hl : c.loaded = some l) : ¬ now - l.time < c.ttl := by
  unfold fresh? at h
  rw [hl] at h
  intro hfresh
  simp only [hfresh, if_true] at h
  cases h

theorem run_recorded (clock : τ → Nat) (source : ConfigSource τ) (log : List Asked) (w : τ) :
    (source.recorded clock).run (log, w) = match source.run w with
      | (result, w') => (result, log ++ [⟨clock w', result⟩], w') := by
  unfold ConfigSource.recorded
  rw [run_bind_ok (run_get (log, w))]
  simp only []
  rcases source.run w with ⟨result, w'⟩
  cases result <;> rfl

theorem run_load {σ : Type} (clock : σ → Nat) (source : ConfigSource σ) (c : Cache) (w : σ) :
    (load clock source).run (c, w) = match c.fresh? (clock w), source.run w with
      | some configs, _ => (.ok configs, c, w)
      | none, (.ok configs, w') => (.ok configs, { c with loaded := some ⟨clock w', configs⟩ }, w')
      | none, (.error e, w') => (.error e, c, w') := by
  unfold load
  rw [run_bind_ok (run_get (c, w))]
  simp only []
  cases c.fresh? (clock w) with
  | some configs => rfl
  | none =>
    rcases source.run w with ⟨result, w'⟩
    cases result <;> rfl

end Cache

/-- A load with the record of its source: from the cache, or from the source and on record. -/
theorem load_cases (clock : τ → Nat) (source : ConfigSource τ) (c : Cache) (w : τ) :
    let run := (Cache.load (fun r => clock r.2) (source.recorded clock)).run (c, [], w)
    (∃ l, c.loaded = some l ∧ clock w - l.time < c.ttl ∧ run = (.ok l.configs, c, [], w)) ∨
      (∀ l, c.loaded = some l → ¬ clock w - l.time < c.ttl) ∧
        ((∃ configs w', source.run w = (.ok configs, w') ∧ run = (.ok configs,
            { c with loaded := some ⟨clock w', configs⟩ }, [⟨clock w', .ok configs⟩], w')) ∨
          ∃ e w', source.run w = (.error e, w') ∧
            run = (.error e, c, [⟨clock w', .error e⟩], w')) := by
  intro run
  have hload : run = _ := Cache.run_load (fun r : List Asked × τ => clock r.2)
    (source.recorded clock) c ([], w)
  rw [Cache.run_recorded] at hload
  cases hfresh : c.fresh? (clock w) with
  | some configs =>
    left
    obtain ⟨l, hl, hlt, rfl⟩ := Cache.fresh?_eq_some hfresh
    refine ⟨l, hl, hlt, ?_⟩
    rw [hload]
    simp only [hfresh]
  | none =>
    right
    refine ⟨Cache.not_fresh hfresh, ?_⟩
    rcases hsource : source.run w with ⟨result, w'⟩
    rw [hsource] at hload
    simp only [hfresh] at hload
    cases result with
    | ok configs => exact .inl ⟨configs, w', rfl, hload⟩
    | error e => exact .inr ⟨e, w', rfl, hload⟩

theorem run_get_configs {σ : Type} (source : ConfigSource σ) (name : String) (w : σ) :
    (source.get name).run w = match source.run w with
      | (result, w') => (result.bind fun configs => ConfigSource.find configs name, w') := by
  unfold ConfigSource.get
  rw [run_bind]
  rcases source.run w with ⟨result, w'⟩
  cases result with
  | ok configs => exact run_ofExcept _ w'
  | error e => rfl

namespace CacheCall

theorem eq_invalidate {call : CacheCall} (h : call.reads = false) : call = .invalidate := by
  cases call with
  | invalidate => rfl
  | _ => cases h

theorem found_visit (clock : τ → Nat) (source : ConfigSource τ) (c : Cache) (w : τ)
    (call : CacheCall) : (call.visit clock source c w).found = w := by
  cases call <;> rfl

/-- A call that reads shows what a load gives. -/
theorem visit_reading (clock : τ → Nat) (source : ConfigSource τ) (c : Cache) (w : τ)
    {call : CacheCall} (h : call.reads = true) :
    call.visit clock source c w =
      match (Cache.load (fun r => clock r.2) (source.recorded clock)).run (c, [], w) with
      | (result, after, asked, world) =>
        ⟨call, c, w, call.shows result, asked, after, world⟩ := by
  cases call with
  | load => rfl
  | get name =>
    unfold visit
    simp only [run_get_configs]
    rfl
  | invalidate => cases h

theorem comes_visit (clock : τ → Nat) (source : ConfigSource τ) (c : Cache) (w : τ)
    (call : CacheCall) : CacheVisit.Comes clock source c w call (call.visit clock source c w) := by
  cases hreads : call.reads with
  | false =>
    cases eq_invalidate hreads
    exact .invalidated rfl
  | true =>
    rw [visit_reading clock source c w hreads]
    rcases load_cases clock source c w with ⟨l, hl, hlt, hrun⟩ | ⟨hstale, hasked⟩
    · rw [hrun]
      exact .cached l hreads hl hlt
    · rcases hasked with ⟨configs, w', h, hrun⟩ | ⟨e, w', h, hrun⟩
      · rw [hrun]
        exact .loaded configs w' hreads hstale h
      · rw [hrun]
        exact .failed e w' hreads hstale h

end CacheCall

/-! ## All calls -/

namespace CacheVisit

theorem not_fails_of_ok {v : CacheVisit τ} {time : Nat} {configs : Configs}
    (h : v.asked = [⟨time, .ok configs⟩]) : ¬ v.Fails := by
  rintro ⟨time', e, hmem⟩
  rw [h] at hmem
  cases List.mem_singleton.1 hmem

theorem readings_cons (clock : τ → Nat) (v : CacheVisit τ) (visits : List (CacheVisit τ)) :
    readings clock (v :: visits) = clock v.found :: clock v.world :: readings clock visits :=
  rfl

theorem loads_concat (visits : List (CacheVisit τ)) (v : CacheVisit τ) :
    loads (visits ++ [v])
      = if v.call.reads then loads visits ++ v.asked.filterMap Asked.loaded? else [] := by
  unfold loads
  rw [List.reverse_append, List.reverse_singleton, List.singleton_append, List.takeWhile_cons]
  split
  · simp
  · rfl

end CacheVisit

/-- The cache after the visits `seen`, when the time is `now`. -/
structure CacheHolds (ttl : Nat) (seen : List (CacheVisit τ)) (c : Cache) (now : Nat) : Prop where
  lifetime : c.ttl = ttl
  loaded : c.loaded = (CacheVisit.loads seen).getLast?
  past : ∀ l ∈ CacheVisit.loads seen, l.time ≤ now
  /-- Nothing is loaded while there is something fresh. -/
  apart : (CacheVisit.loads seen).Pairwise fun a b => a.time + ttl ≤ b.time
  /-- The source was not asked in vain while there was something fresh. -/
  spent : ∀ u, seen.getLast? = some u → u.Fails → ∀ l ∈ CacheVisit.loads seen, l.time + ttl ≤ now

namespace CacheHolds

variable {clock : τ → Nat} {source : ConfigSource τ} {ttl now : Nat} {seen : List (CacheVisit τ)}
  {c : Cache} {w : τ}

theorem start (ttl now : Nat) : CacheHolds ttl ([] : List (CacheVisit τ)) { ttl } now where
  lifetime := rfl
  loaded := rfl
  past _ hl := nomatch hl
  apart := .nil
  spent _ hu := nomatch hu

theorem later (h : CacheHolds ttl seen c now) {now' : Nat} (hnow : now ≤ now') :
    CacheHolds ttl seen c now' where
  lifetime := h.lifetime
  loaded := h.loaded
  past l hl := Nat.le_trans (h.past l hl) hnow
  apart := h.apart
  spent u hu hfails l hl := Nat.le_trans (h.spent u hu hfails l hl) hnow

/-- What was loaded before the last load is older than that by `ttl`. -/
theorem eq_last_or_apart (h : CacheHolds ttl seen c now) {l last : Loaded}
    (hl : l ∈ CacheVisit.loads seen) (hlast : c.loaded = some last) :
    l = last ∨ l.time + ttl ≤ last.time := by
  rw [h.loaded, List.getLast?_eq_some_iff] at hlast
  obtain ⟨before, hloads⟩ := hlast
  have hapart := h.apart
  rw [hloads] at hl hapart
  rcases List.mem_append.1 hl with hbefore | hsame
  · exact .inr ((List.pairwise_append.1 hapart).2.2 l hbefore last (List.mem_singleton.2 rfl))
  · exact .inl (List.mem_singleton.1 hsame)

theorem mem_loads (h : CacheHolds ttl seen c now) {last : Loaded} (hlast : c.loaded = some last) :
    last ∈ CacheVisit.loads seen := by
  rw [h.loaded] at hlast
  exact List.mem_of_getLast? hlast

theorem exists_last (h : CacheHolds ttl seen c now) {l : Loaded}
    (hl : l ∈ CacheVisit.loads seen) : ∃ last, c.loaded = some last := by
  rw [h.loaded]
  exact ⟨_, List.getLast?_eq_some_getLast (List.ne_nil_of_mem hl)⟩

/-- Of all that was loaded only what the cache holds can be fresh. -/
theorem fresh_iff (h : CacheHolds ttl seen c now) (l : Loaded) :
    (l ∈ CacheVisit.loads seen ∧ now < l.time + ttl)
      ↔ c.loaded = some l ∧ now - l.time < c.ttl := by
  rw [h.lifetime]
  constructor
  · rintro ⟨hl, hlt⟩
    obtain ⟨last, hlast⟩ := h.exists_last hl
    have hpast := h.past last (h.mem_loads hlast)
    rcases h.eq_last_or_apart hl hlast with rfl | hapart
    · exact ⟨hlast, by omega⟩
    · omega
  · rintro ⟨hlast, hlt⟩
    have hpast := h.past l (h.mem_loads hlast)
    exact ⟨h.mem_loads hlast, by omega⟩

/-- Where nothing is fresh, all that was loaded is older than `ttl`. -/
theorem apart_of_stale (h : CacheHolds ttl seen c now)
    (hstale : ∀ l, c.loaded = some l → ¬ now - l.time < c.ttl) {l : Loaded}
    (hl : l ∈ CacheVisit.loads seen) : l.time + ttl ≤ now := by
  rcases Nat.lt_or_ge now (l.time + ttl) with hlt | hge
  · obtain ⟨hloaded, hfresh⟩ := (h.fresh_iff l).1 ⟨hl, hlt⟩
    exact absurd hfresh (hstale l hloaded)
  · exact hge

/-- A visit that loads nothing leaves everything as it is; it fails only where nothing is fresh. -/
theorem passing (h : CacheHolds ttl seen c now) {v : CacheVisit τ} (hreads : v.call.reads = true)
    (hasked : v.asked.filterMap Asked.loaded? = [])
    (hspent : v.Fails → ∀ l ∈ CacheVisit.loads seen, l.time + ttl ≤ now) :
    CacheHolds ttl (seen ++ [v]) c now := by
  have hloads : CacheVisit.loads (seen ++ [v]) = CacheVisit.loads seen := by
    rw [CacheVisit.loads_concat, if_pos hreads, hasked, List.append_nil]
  constructor
  · exact h.lifetime
  · rw [hloads]
    exact h.loaded
  · rw [hloads]
    exact h.past
  · rw [hloads]
    exact h.apart
  · rw [hloads]
    intro u hu
    rw [List.getLast?_concat] at hu
    cases hu
    exact hspent

theorem adding (h : CacheHolds ttl seen c (clock w)) {v : CacheVisit τ} {l : Loaded}
    (hreads : v.call.reads = true) (hasked : v.asked = [⟨l.time, .ok l.configs⟩])
    (hstale : ∀ l, c.loaded = some l → ¬ clock w - l.time < c.ttl) (htime : clock w ≤ l.time) :
    CacheHolds ttl (seen ++ [v]) { c with loaded := some l } l.time := by
  have hloads : CacheVisit.loads (seen ++ [v]) = CacheVisit.loads seen ++ [l] := by
    rw [CacheVisit.loads_concat, if_pos hreads, hasked]
    rfl
  constructor
  · exact h.lifetime
  · rw [hloads, List.getLast?_concat]
  · rw [hloads, List.forall_mem_append, List.forall_mem_singleton]
    exact ⟨fun l' hl' => Nat.le_trans (h.past l' hl') htime, Nat.le_refl _⟩
  · rw [hloads, List.pairwise_append]
    refine ⟨h.apart, List.pairwise_singleton _ l, ?_⟩
    intro l' hl' last hlast
    cases List.mem_singleton.1 hlast
    exact Nat.le_trans (h.apart_of_stale hstale hl') htime
  · intro u hu hfails
    rw [List.getLast?_concat] at hu
    cases hu
    exact absurd hfails (CacheVisit.not_fails_of_ok hasked)

/-- An invalidated cache is as one that was never asked. -/
theorem clearing (h : CacheHolds ttl seen c now) {v : CacheVisit τ}
    (hreads : v.call.reads = false) : CacheHolds ttl (seen ++ [v]) c.invalidate now := by
  have hloads : CacheVisit.loads (seen ++ [v]) = [] := by
    rw [CacheVisit.loads_concat, if_neg (by simp [hreads])]
  constructor
  · exact h.lifetime
  · rw [hloads]
    rfl
  · simp [hloads]
  · rw [hloads]
    exact .nil
  · simp [hloads]

/-- What one visit preserves. -/
theorem step (h : CacheHolds ttl seen c (clock w)) {call : CacheCall}
    (htime : clock w ≤ clock (call.visit clock source c w).world) :
    CacheHolds ttl (seen ++ [call.visit clock source c w]) (call.visit clock source c w).after
      (clock (call.visit clock source c w).world) := by
  have hcomes := call.comes_visit clock source c w
  generalize call.visit clock source c w = v at hcomes htime
  cases hcomes with
  | invalidated hreads => exact h.clearing hreads
  | cached l hreads hl hlt =>
    apply h.passing hreads rfl
    rintro ⟨time, e, hmem⟩
    cases hmem
  | loaded configs w' hreads hstale hrun => exact h.adding hreads rfl hstale htime
  | failed e w' hreads hstale hrun =>
    exact (h.later htime).passing hreads rfl fun _ l hl =>
      Nat.le_trans (h.apart_of_stale hstale hl) htime

theorem none_fresh (h : CacheHolds ttl seen c now)
    (hstale : ∀ l, c.loaded = some l → ¬ now - l.time < c.ttl) :
    ¬ ∃ l ∈ CacheVisit.loads seen, now < l.time + ttl := by
  rintro ⟨l, hl, hlt⟩
  have hapart := h.apart_of_stale hstale hl
  omega

/-- Where nothing is fresh, what the source answers is all that counts. -/
theorem lawful_of_asked {v : CacheVisit τ} (h : CacheHolds ttl seen c (clock v.found))
    {result : Except ConfigError Configs} (hreads : v.call.reads = true)
    (hstale : ∀ l, c.loaded = some l → ¬ clock v.found - l.time < c.ttl)
    (hrun : source.run v.found = (result, v.world))
    (hasked : v.asked = [⟨clock v.world, result⟩]) (hreply : v.reply = v.call.shows result)
    (hkept : ∀ e, result = .error e → v.after = v.before) :
    v.Lawful clock source ttl seen := by
  have hnone := h.none_fresh hstale
  have hne : v.asked ≠ [] := by
    rw [hasked]
    exact List.cons_ne_nil _ _
  constructor
  case invalidated => exact fun hunread => nomatch hreads.symm.trans hunread
  case spared => exact fun _ => iff_of_false hne hnone
  case cached => exact fun _ l hl hlt => absurd ⟨l, hl, hlt⟩ hnone
  case asked => exact fun _ _ => ⟨result, hrun, hasked, hreply⟩
  case failed =>
    intro time e hmem
    rw [hasked] at hmem
    cases List.mem_singleton.1 hmem
    exact ⟨hreply, hkept e rfl⟩
  case retried => exact fun _ _ _ _ => hne
  case young =>
    intro _ hpos
    cases result with
    | error e =>
      refine .inl ⟨clock v.world, e, ?_⟩
      rw [hasked]
      exact List.mem_singleton.2 rfl
    | ok configs =>
      refine .inr ⟨⟨clock v.world, configs⟩, ?_, hreply, Nat.lt_add_of_pos_right hpos⟩
      rw [CacheVisit.loads_concat, if_pos hreads, hasked]
      exact List.mem_append_right _ (List.mem_singleton.2 rfl)
  case reloaded =>
    intro _ _
    rw [hasked]
    rfl

theorem lawful (h : CacheHolds ttl seen c (clock w)) (call : CacheCall) :
    (call.visit clock source c w).Lawful clock source ttl seen := by
  have hcomes := call.comes_visit clock source c w
  generalize call.visit clock source c w = v at hcomes
  cases hcomes with
  | invalidated hreads =>
    have hnever : ∀ {p : Prop}, call.reads = true → p :=
      fun hread => nomatch hreads.symm.trans hread
    constructor
    case invalidated => exact fun _ => ⟨rfl, rfl, rfl⟩
    case failed => exact fun time e hmem => nomatch hmem
    case retried => exact fun _ _ _ => hnever
    all_goals exact hnever
  | cached l hreads hl hlt =>
    have hfresh := (h.fresh_iff l).2 ⟨hl, hlt⟩
    constructor
    case invalidated => exact fun hunread => nomatch hreads.symm.trans hunread
    case spared => exact fun _ => iff_of_true rfl ⟨l, hfresh⟩
    case cached =>
      intro _ l' hl' hlt'
      have hsame := ((h.fresh_iff l').1 ⟨hl', hlt'⟩).1
      cases hl.symm.trans hsame
      exact ⟨rfl, rfl, rfl⟩
    case asked => exact fun _ hasked => absurd rfl hasked
    case failed => exact fun time e hmem => nomatch hmem
    case retried =>
      intro u hu hfails
      have hspent := h.spent u hu hfails l hfresh.1
      omega
    case young =>
      refine fun _ _ => .inr ⟨l, ?_, rfl, hfresh.2⟩
      rw [CacheVisit.loads_concat, if_pos hreads]
      exact List.mem_append_left _ hfresh.1
    case reloaded =>
      intro _ hzero
      rw [h.lifetime] at hlt
      omega
  | loaded configs w' hreads hstale hrun =>
    exact h.lawful_of_asked hreads hstale hrun rfl rfl fun e he => nomatch he
  | failed e w' hreads hstale hrun =>
    exact h.lawful_of_asked hreads hstale hrun rfl rfl fun _ _ => rfl

/-- Each visit is lawful after the ones before it. -/
theorem history {turns : List (τ × CacheCall)} {seen : List (CacheVisit τ)} {c : Cache}
    {now : Nat} (h : CacheHolds ttl seen c now)
    (hclock : (now :: CacheVisit.readings clock (Cache.history clock source turns c)).Pairwise
      (· ≤ ·))
    {earlier later : List (CacheVisit τ)} {v : CacheVisit τ}
    (hsplit : Cache.history clock source turns c = earlier ++ v :: later) :
    v.Lawful clock source ttl (seen ++ earlier) := by
  induction turns generalizing seen c now earlier with
  | nil => cases earlier <;> cases hsplit
  | cons turn turns ih =>
    obtain ⟨w, call⟩ := turn
    unfold Cache.history at hclock hsplit
    rw [CacheVisit.readings_cons, call.found_visit] at hclock
    obtain ⟨hnow, hrest⟩ := List.pairwise_cons.1 hclock
    have hfound : CacheHolds ttl seen c (clock w) := h.later (hnow _ List.mem_cons_self)
    cases earlier with
    | nil =>
      injection hsplit with hv
      rw [← hv, List.append_nil]
      exact hfound.lawful call
    | cons u earlier =>
      injection hsplit with hu hlater
      subst hu
      obtain ⟨hworld, hrest⟩ := List.pairwise_cons.1 hrest
      have htime : clock w ≤ clock (call.visit clock source c w).world :=
        hworld _ List.mem_cons_self
      rw [List.append_cons]
      exact ih (hfound.step htime) hrest hlater

end CacheHolds

/-- **Fresh answers.**  Whatever is called on a new cache, whenever, and whatever the source
answers meanwhile. -/
theorem Cache.history_fresh (clock : τ → Nat) (source : ConfigSource τ) (ttl : Nat)
    (turns : List (τ × CacheCall))
    (hclock : (CacheVisit.readings clock (history clock source turns { ttl })).Pairwise (· ≤ ·))
    (earlier later : List (CacheVisit τ)) (v : CacheVisit τ)
    (hsplit : history clock source turns { ttl } = earlier ++ v :: later) :
    v.Lawful clock source ttl earlier :=
  (CacheHolds.start ttl 0).history
    (List.pairwise_cons.2 ⟨fun _ _ => Nat.zero_le _, hclock⟩) hsplit

/-- A source that takes a unit of time, and fails while it is down. -/
def slowSource : ConfigSource (Nat × Bool) := fun (now, down) =>
  (if down then .error (.unreadable "database.toml" "gone") else .ok [("default", {})],
    now + 1, down)

/-- A load that comes too late and fails, and the one after it. -/
def outage : List ((Nat × Bool) × CacheCall) :=
  [((0, false), .load), ((3, true), .get "default"), ((6, true), .load), ((8, false), .load)]

theorem Cache.history_fresh_outage :
    ∃ earlier later v, history Prod.fst slowSource outage { ttl := 5 } = earlier ++ v :: later ∧
      v.asked = [⟨7, .error (.unreadable "database.toml" "gone")⟩] ∧
      v.Lawful Prod.fst slowSource 5 earlier :=
  ⟨_, _, _, rfl, rfl, history_fresh Prod.fst slowSource 5 outage (by decide) [_, _] [_] _ rfl⟩

end SqlGateway
