import SqlGateway.Proofs.Instances.Step
import SqlGateway.Script

/-!
# The life of named instances

Any sequence of calls on new instances, over any registry and a source that may
answer anything at each of them.  A name gets its adapter the first time that
it can, and keeps it.  When the registered factories are lawful, everything
else that is handed out is new, and nothing connects.

    get n answered a     →   every later get n answers a
    make answered a      →   nothing else ever does
    n is loaded          iff a get n succeeded before
-/

namespace SqlGateway

variable {σ τ ω α : Type}

/-! ## Specification -/

/-- One call of a history, with what was before and after it. -/
structure InstanceVisit (σ τ ω α : Type) where
  call : InstanceCall ω
  world : τ
  before : Site σ ω α
  reply : InstanceReply α
  after : Site σ ω α

namespace InstanceVisit

def of (source : ConfigSource τ) (w : τ) (call : InstanceCall ω) (s : Site σ ω α) :
    InstanceVisit σ τ ω α :=
  ⟨call, w, s, (call.perform source w s).1, (call.perform source w s).2⟩

/-- The adapter of a name is asked for. -/
def Asks (v : InstanceVisit σ τ ω α) (name : String) : Prop :=
  ∃ asked, v.call = .get asked ∧ asked.getD defaultInstance = name

def Returns (v : InstanceVisit σ τ ω α) (a : α) : Prop :=
  v.reply = .adapter a

def Gets (v : InstanceVisit σ τ ω α) (name : String) (a : α) : Prop :=
  v.Asks name ∧ v.Returns a

/-- The adapter was made for this call, of what the source had for the name then. -/
structure Creates (source : ConfigSource τ) (r : Registry σ ω α) (v : InstanceVisit σ τ ω α)
    (name : String) (config : InstanceConfig) (a : α) : Prop where
  asked : v.call.name? = some name
  returned : v.Returns a
  unkept : v.Asks name → v.before.instances.isLoaded name = false
  builds : r.Builds (source.run v.world).1 name config v.before.drivers v.after.drivers a

end InstanceVisit

namespace Site

/-- The calls one after the other, each with what the source looks at then. -/
def history (source : ConfigSource τ) :
    List (τ × InstanceCall ω) → Site σ ω α → List (InstanceVisit σ τ ω α)
  | [], _ => []
  | (w, call) :: turns, s =>
    .of source w call s :: history source turns (InstanceVisit.of source w call s).after

/-- Where the calls lead to. -/
def reached (source : ConfigSource τ) : List (τ × InstanceCall ω) → Site σ ω α → Site σ ω α
  | [], s => s
  | (w, call) :: turns, s => reached source turns (InstanceVisit.of source w call s).after

end Site

namespace InstanceVisit

/-- How a call fits to the calls before it, whatever is registered. -/
structure Fits (source : ConfigSource τ) (r : Registry σ ω α)
    (pre : List (InstanceVisit σ τ ω α)) (v : InstanceVisit σ τ ω α) : Prop where
  /-- A name keeps its adapter, whatever the source says later. -/
  kept : ∀ u ∈ pre, ∀ n a, u.Gets n a → v.Asks n → v.Returns a ∧ v.after = v.before
  /-- A get or a make that returns no adapter fails as the source or the registry does, and leaves
  everything as it was. -/
  failed : ∀ n, v.call.name? = some n → (∃ a, v.Returns a) ∨
    ∃ cause, v.reply = .failed cause ∧ r.Refuses (source.run v.world).1 n cause ∧
      v.after = v.before
  /-- A make keeps nothing, and what follows it is what would have followed without it. -/
  unnoticed : ∀ n, v.call = .make n → v.after.instances = v.before.instances ∧
    ∀ turns : List (τ × InstanceCall ω),
      (Site.history source turns v.after).map (·.reply.shape)
        = (Site.history source turns v.before).map (·.reply.shape)
  told : ∀ n, v.call = .isLoaded n → ∃ flag, v.reply = .loaded flag ∧
    (flag = true ↔ ∃ u ∈ pre, ∃ a, u.Gets n a) ∧ v.after = v.before
  /-- An adapter was made for a call with its name, by the entry of its driver. -/
  founded : ∀ n a, v.call.name? = some n → v.Returns a →
    ∃ u ∈ pre ++ [v], ∃ config, u.Creates source r n config a

/-- How a call fits to the calls before it when the registered factories are lawful. -/
structure Safe (view : AdapterView σ ω α) (source : ConfigSource τ) (r : Registry σ ω α)
    (pre : List (InstanceVisit σ τ ω α)) (v : InstanceVisit σ τ ω α) : Prop where
  /-- Two calls return the same adapter just when one name is asked for in both. -/
  same : ∀ u ∈ pre, ∀ a, u.Returns a → (v.Returns a ↔ ∃ n, u.Gets n a ∧ v.Asks n)
  /-- An adapter stays that of its instance, with what was configured when it was made. -/
  carried : ∀ u ∈ pre ++ [v], ∀ n config a, u.Creates source r n config a →
    ∃ s, view.session v.after.drivers a = some s ∧ s.name = n ∧ s.config = config
  /-- No connection is opened, neither on an adapter that was there nor on one that is made. -/
  idle : v.call.isOwn = true → view.Untouched v.before.drivers v.after.drivers ∧
    ∀ a, v.Returns a → ∃ s, view.session v.after.drivers a = some s ∧
      (view.session v.before.drivers a = some s ∨ s.connection = none)

/-! ## What the calls tell about the instances -/

theorem Asks.unique {v : InstanceVisit σ τ ω α} {n m : String} (hn : v.Asks n) (hm : v.Asks m) :
    n = m := by
  obtain ⟨asked, hcall, rfl⟩ := hn
  obtain ⟨asked', hcall', rfl⟩ := hm
  cases hcall.symm.trans hcall'
  rfl

theorem Asks.name? {v : InstanceVisit σ τ ω α} {n : String} (h : v.Asks n) :
    v.call.name? = some n := by
  obtain ⟨asked, hcall, rfl⟩ := h
  rw [hcall]
  rfl

theorem Returns.unique {v : InstanceVisit σ τ ω α} {a b : α} (ha : v.Returns a)
    (hb : v.Returns b) : a = b := by
  cases ha.symm.trans hb
  rfl

/-- A call keeps nothing under a name but what it gets for that name. -/
theorem of_kept_iff (source : ConfigSource τ) (w : τ) (call : InstanceCall ω) (s : Site σ ω α)
    (n : String) (a : α) :
    (of source w call s).after.instances.adapter? n = some a ↔
      s.instances.adapter? n = some a ∨ (of source w call s).Gets n a := by
  have hstep := s.step_perform source w call
  unfold of
  generalize call.perform source w s = res at hstep
  cases hstep with
  | kept asked b hb =>
    constructor
    · intro h
      exact .inl h
    · rintro (h | ⟨⟨asked', hcall, rfl⟩, hreturns⟩)
      · exact h
      · cases hcall
        cases hreturns
        exact hb
  | loaded asked config b d' hnew hbuilds =>
    refine (Instances.adapter?_naming_eq_some_iff hnew b n a).trans (or_congr_right ⟨?_, ?_⟩)
    · rintro ⟨rfl, rfl⟩
      exact ⟨⟨asked, rfl, rfl⟩, rfl⟩
    · rintro ⟨⟨asked', hcall, rfl⟩, hreturns⟩
      cases hcall
      cases hreturns
      exact ⟨rfl, rfl⟩
  | notLoaded | notMade | told | passed =>
    exact ⟨.inl, fun h => h.resolve_right fun h => nomatch h.2⟩
  | made =>
    refine ⟨.inl, fun h => h.resolve_right ?_⟩
    rintro ⟨⟨asked', hcall, -⟩, -⟩
    cases hcall

/-- What a call returns was kept under the name that it asks for, or is created by it. -/
theorem of_returned (source : ConfigSource τ) (w : τ) (call : InstanceCall ω) (s : Site σ ω α)
    (a : α) (h : (of source w call s).Returns a) :
    (∃ n, (of source w call s).Asks n ∧ s.instances.adapter? n = some a ∧
      (of source w call s).after = s) ∨
    ∃ n config, (of source w call s).Creates source s.instances.registry n config a := by
  have hstep := s.step_perform source w call
  unfold of at h ⊢
  generalize call.perform source w s = res at hstep h
  cases hstep with
  | kept asked b hb =>
    cases h
    exact .inl ⟨_, ⟨asked, rfl, rfl⟩, hb, rfl⟩
  | loaded asked config b d' hnew hbuilds =>
    cases h
    refine .inr ⟨_, config, rfl, rfl, fun _ => ?_, hbuilds⟩
    show (s.instances.adapter? _).isSome = false
    rw [hnew]
    rfl
  | made name config b d' hbuilds =>
    cases h
    refine .inr ⟨_, config, rfl, rfl, ?_, hbuilds⟩
    rintro ⟨asked, hcall, -⟩
    cases hcall
  | notLoaded | notMade | told | passed => cases h

theorem of_registry (source : ConfigSource τ) (w : τ) (call : InstanceCall ω) (s : Site σ ω α) :
    (of source w call s).after.instances.registry = s.instances.registry := by
  have hstep := s.step_perform source w call
  unfold of
  generalize call.perform source w s = res at hstep
  cases hstep <;> rfl

/-- What is kept under a name is what a get of it returns. -/
theorem of_kept (source : ConfigSource τ) (w : τ) (call : InstanceCall ω) (s : Site σ ω α)
    {n : String} {a : α} (hasks : (of source w call s).Asks n)
    (h : s.instances.adapter? n = some a) :
    (of source w call s).Returns a ∧ (of source w call s).after = s := by
  obtain ⟨asked, hcall, rfl⟩ := hasks
  cases hcall
  have hperform : (InstanceCall.get asked).perform source w s = (.adapter a, s) := by
    dsimp only [InstanceCall.perform]
    rw [Instances.get_run, h]
    rfl
  unfold of Returns
  rw [hperform]
  exact ⟨rfl, rfl⟩

end InstanceVisit

/-- What holds of the calls so far and where they led, and is kept by each call, holds in the end. -/
theorem Site.history_induction {P : List (InstanceVisit σ τ ω α) → Site σ ω α → Prop}
    {source : ConfigSource τ} {turns : List (τ × InstanceCall ω)}
    (hstep : ∀ turn ∈ turns, ∀ seen s, P seen s →
      P (seen ++ [.of source turn.1 turn.2 s]) (InstanceVisit.of source turn.1 turn.2 s).after)
    {seen : List (InstanceVisit σ τ ω α)} {s : Site σ ω α} (h : P seen s) :
    P (seen ++ s.history source turns) (s.reached source turns) := by
  induction turns generalizing seen s with
  | nil => simpa [history, reached] using h
  | cons turn turns ih =>
    rw [List.forall_mem_cons] at hstep
    have hrest := ih hstep.2 (hstep.1 seen s h)
    rw [List.append_assoc] at hrest
    exact hrest

theorem exists_mem_concat {β : Type} {p : β → Prop} {l : List β} {a : β} :
    (∃ u ∈ l ++ [a], p u) ↔ (∃ u ∈ l, p u) ∨ p a := by
  simp [or_and_right, exists_or]

/-- Where the calls `seen` led to. -/
structure Accounted (source : ConfigSource τ) (r : Registry σ ω α)
    (seen : List (InstanceVisit σ τ ω α)) (s : Site σ ω α) : Prop where
  registry : s.instances.registry = r
  named : ∀ n a, s.instances.adapter? n = some a ↔ ∃ u ∈ seen, u.Gets n a
  created : ∀ u ∈ seen, ∀ a, u.Returns a → ∃ n, u.call.name? = some n ∧
    ∃ u' ∈ seen, ∃ config, u'.Creates source r n config a

namespace Accounted

variable {source : ConfigSource τ} {r : Registry σ ω α} {seen : List (InstanceVisit σ τ ω α)}
  {s : Site σ ω α}

theorem start (source : ConfigSource τ) (r : Registry σ ω α) (drivers : ω) :
    Accounted source r [] ⟨{ registry := r }, drivers⟩ where
  registry := rfl
  named n a := by simp [Instances.adapter?, Keyed.find?]
  created _ hu := nomatch hu

theorem step (h : Accounted source r seen s) (w : τ) (call : InstanceCall ω) :
    Accounted source r (seen ++ [.of source w call s])
      (InstanceVisit.of source w call s).after where
  registry := (InstanceVisit.of_registry source w call s).trans h.registry
  named n a := by rw [exists_mem_concat, InstanceVisit.of_kept_iff, h.named]
  created := by
    rw [List.forall_mem_append, List.forall_mem_singleton]
    constructor
    · intro u hu a ha
      obtain ⟨n, hn, u', hu', hc⟩ := h.created u hu a ha
      exact ⟨n, hn, u', List.mem_append_left _ hu', hc⟩
    · intro a ha
      rcases InstanceVisit.of_returned source w call s a ha with ⟨n, hasks, hkept, -⟩ | ⟨n, config, hc⟩
      · obtain ⟨u, hu, huasks, hureturns⟩ := (h.named n a).1 hkept
        obtain ⟨m, hm, u', hu', hc⟩ := h.created u hu a hureturns
        cases huasks.name?.symm.trans hm
        exact ⟨n, hasks.name?, u', List.mem_append_left _ hu', hc⟩
      · rw [h.registry] at hc
        exact ⟨n, hc.asked, _, by simp, config, hc⟩

theorem history (h : Accounted source r seen s) (turns : List (τ × InstanceCall ω)) :
    Accounted source r (seen ++ s.history source turns) (s.reached source turns) :=
  Site.history_induction (fun turn _ _ _ h => h.step turn.1 turn.2) h

end Accounted

/-! ## Two sites that answer alike -/

/-- The same names are loaded in both, whatever was made besides. -/
structure Alike (s s' : Site σ ω α) : Prop where
  registry : s'.instances.registry = s.instances.registry
  loaded : ∀ n, s'.instances.isLoaded n = s.instances.isLoaded n

namespace Alike

variable {s s' : Site σ ω α}

theorem of_instances_eq (h : s'.instances = s.instances) : Alike s s' := by
  constructor <;> simp [h]

theorem naming (h : Alike s s') (name : String) (a a' : α) (d d' : ω) :
    Alike ⟨s.instances.naming name a, d⟩ ⟨s'.instances.naming name a', d'⟩ where
  registry := h.registry
  loaded n := by
    have hn := h.loaded n
    rw [Instances.isLoaded_eq_isSome, Instances.isLoaded_eq_isSome] at hn ⊢
    rw [Instances.adapter?_naming, Instances.adapter?_naming]
    split
    · rfl
    · exact hn

/-- On both an adapter is made, or on none and for one reason. -/
theorem make (h : Alike s s') (source : ConfigSource τ) (w : τ) (name : String) :
    (∃ a a' d d',
      (Instances.make source name).run (s.instances, w, s.drivers)
        = (.ok a, s.instances, (source.run w).2, d) ∧
      (Instances.make source name).run (s'.instances, w, s'.drivers)
        = (.ok a', s'.instances, (source.run w).2, d')) ∨
    ∃ cause,
      (Instances.make source name).run (s.instances, w, s.drivers)
        = (.error cause, s.instances, (source.run w).2, s.drivers) ∧
      (Instances.make source name).run (s'.instances, w, s'.drivers)
        = (.error cause, s'.instances, (source.run w).2, s'.drivers) := by
  -- Whether there is an entry to make it depends on the answer and the registry alone.
  rw [Instances.make_run, Instances.make_run, h.registry]
  cases (source.run w).1.bind fun configs => ConfigSource.find configs name with
  | error cause => exact .inr ⟨cause, rfl, rfl⟩
  | ok config =>
    dsimp only
    rw [Registry.run_build, Registry.run_build]
    cases s.instances.registry.entry name config.driver with
    | error cause => exact .inr ⟨cause, rfl, rfl⟩
    | ok e => exact .inl ⟨_, _, _, _, rfl, rfl⟩

theorem perform (h : Alike s s') (source : ConfigSource τ) (w : τ) (call : InstanceCall ω) :
    (call.perform source w s').1.shape = (call.perform source w s).1.shape ∧
      Alike (call.perform source w s).2 (call.perform source w s').2 := by
  cases call with
  | get asked =>
    dsimp only [InstanceCall.perform]
    rw [Instances.get_run, Instances.get_run]
    generalize asked.getD defaultInstance = name
    have hloaded := h.loaded name
    rw [Instances.isLoaded_eq_isSome, Instances.isLoaded_eq_isSome] at hloaded
    cases hkept : s.instances.adapter? name with
    | some a =>
      rw [hkept, Option.isSome_some, Option.isSome_iff_exists] at hloaded
      obtain ⟨a', hkept'⟩ := hloaded
      rw [hkept']
      exact ⟨rfl, h⟩
    | none =>
      rw [hkept, Option.isSome_none, Option.isSome_eq_false_iff, Option.isNone_iff_eq_none]
        at hloaded
      rw [hloaded]
      dsimp only
      rcases h.make source w name with ⟨a, a', d, d', hrun, hrun'⟩ | ⟨cause, hrun, hrun'⟩
      · rw [hrun, hrun']
        exact ⟨rfl, h.naming name a a' d d'⟩
      · rw [hrun, hrun']
        exact ⟨rfl, h⟩
  | make name =>
    dsimp only [InstanceCall.perform]
    rcases h.make source w name with ⟨a, a', d, d', hrun, hrun'⟩ | ⟨cause, hrun, hrun'⟩
    · rw [hrun, hrun']
      exact ⟨rfl, h.registry, h.loaded⟩
    · rw [hrun, hrun']
      exact ⟨rfl, h⟩
  | isLoaded name => exact ⟨congrArg InstanceReply.loaded (h.loaded name), h⟩
  | meanwhile f => exact ⟨rfl, h.registry, h.loaded⟩

theorem replies (h : Alike s s') (source : ConfigSource τ) (turns : List (τ × InstanceCall ω)) :
    (s'.history source turns).map (·.reply.shape) = (s.history source turns).map (·.reply.shape) := by
  induction turns generalizing s s' with
  | nil => rfl
  | cons turn turns ih =>
    obtain ⟨w, call⟩ := turn
    obtain ⟨hreply, hafter⟩ := h.perform source w call
    exact List.cons_eq_cons.2 ⟨hreply, ih hafter⟩

end Alike

/-! ## One call after any others -/

theorem Accounted.fits {source : ConfigSource τ} {r : Registry σ ω α}
    {seen : List (InstanceVisit σ τ ω α)} {s : Site σ ω α} (h : Accounted source r seen s) (w : τ)
    (call : InstanceCall ω) : (InstanceVisit.of source w call s).Fits source r seen where
  kept u hu n a hgets hasks :=
    InstanceVisit.of_kept source w call s hasks ((h.named n a).2 ⟨u, hu, hgets⟩)
  failed n hn := by
    have hstep := s.step_perform source w call
    unfold InstanceVisit.of
    generalize call.perform source w s = res at hstep
    rw [← h.registry]
    cases hstep with
    | kept asked a => exact .inl ⟨a, rfl⟩
    | loaded asked config a => exact .inl ⟨a, rfl⟩
    | made name config a => exact .inl ⟨a, rfl⟩
    | notLoaded asked cause hnew hrefuses =>
      cases hn
      exact .inr ⟨cause, rfl, hrefuses, rfl⟩
    | notMade name cause hrefuses =>
      cases hn
      exact .inr ⟨cause, rfl, hrefuses, rfl⟩
    | told | passed => cases hn
  unnoticed n hcall := by
    have hstep := s.step_perform source w call
    have hsame : (InstanceVisit.of source w call s).after.instances = s.instances := by
      unfold InstanceVisit.of at hcall ⊢
      generalize call.perform source w s = res at hstep
      cases hcall
      cases hstep <;> rfl
    exact ⟨hsame, (Alike.of_instances_eq hsame).replies source⟩
  told n hcall := by
    cases hcall
    refine ⟨_, rfl, ?_, rfl⟩
    rw [Instances.isLoaded_eq_isSome, Option.isSome_iff_exists]
    simp only [h.named]
    exact exists_comm.trans (by simp only [exists_and_left])
  founded n a hn ha := by
    obtain ⟨m, hm, hcreated⟩ := (h.step w call).created _ (by simp) a ha
    cases hn.symm.trans hm
    exact hcreated

/-! ## Lawful factories -/

theorem Registry.Builds.untouched {view : AdapterView σ ω α} {r : Registry σ ω α}
    {answer : Except ConfigError Configs} {name : String} {config : InstanceConfig} {d d' : ω} {a : α}
    (h : r.Builds answer name config d d' a) (hr : r.Lawful view) :
    view.Untouched d d' ∧ view.session d a = none ∧
      ∃ s, view.session d' a = some s ∧ s.name = name ∧ s.config = config ∧
        s.connection = none := by
  obtain ⟨e, hentry, hrun⟩ := h.entry
  exact (hr _ e hentry).run_make hrun

namespace InstanceVisit

variable {view : AdapterView σ ω α}

theorem of_untouched (source : ConfigSource τ) (w : τ) {call : InstanceCall ω} {s : Site σ ω α}
    (hr : s.instances.registry.Lawful view) (hown : call.isOwn = true) :
    view.Untouched s.drivers (of source w call s).after.drivers := by
  have hstep := s.step_perform source w call
  unfold of
  generalize call.perform source w s = res at hstep
  cases hstep with
  | kept | notLoaded | notMade | told => exact .refl view _
  | loaded asked config a d' hnew hbuilds => exact (hbuilds.untouched hr).1
  | made name config a d' hbuilds => exact (hbuilds.untouched hr).1
  | passed => cases hown

theorem of_later (source : ConfigSource τ) (w : τ) {call : InstanceCall ω} {s : Site σ ω α}
    (hr : s.instances.registry.Lawful view) (hcall : call.Lawful view) :
    view.Later s.drivers (of source w call s).after.drivers := by
  cases call with
  | meanwhile f => exact hcall s.drivers
  | get | make | isLoaded => exact (of_untouched source w hr rfl).later

end InstanceVisit

/-- Where the calls `seen` led to, when the registered factories are lawful. -/
structure Apart (view : AdapterView σ ω α) (source : ConfigSource τ) (r : Registry σ ω α)
    (seen : List (InstanceVisit σ τ ω α)) (s : Site σ ω α) : Prop where
  accounted : Accounted source r seen s
  /-- What is kept under a name was returned to nothing but a get of this name. -/
  apart : ∀ u ∈ seen, ∀ n a, u.Returns a → s.instances.adapter? n = some a → u.Asks n
  carried : ∀ u ∈ seen, ∀ n config a, u.Creates source r n config a →
    ∃ session, view.session s.drivers a = some session ∧ session.name = n ∧
      session.config = config

namespace Apart

variable {view : AdapterView σ ω α} {source : ConfigSource τ} {r : Registry σ ω α}
  {seen : List (InstanceVisit σ τ ω α)} {s : Site σ ω α}

theorem start (view : AdapterView σ ω α) (source : ConfigSource τ) (r : Registry σ ω α)
    (drivers : ω) : Apart view source r [] ⟨{ registry := r }, drivers⟩ where
  accounted := .start source r drivers
  apart _ hu := nomatch hu
  carried _ hu := nomatch hu

/-- What was returned is there. -/
theorem session_of_returns (h : Apart view source r seen s) {u : InstanceVisit σ τ ω α}
    (hu : u ∈ seen) {a : α} (ha : u.Returns a) : ∃ session, view.session s.drivers a = some session := by
  obtain ⟨n, -, u', hu', config, hc⟩ := h.accounted.created u hu a ha
  obtain ⟨session, hsession, -⟩ := h.carried u' hu' n config a hc
  exact ⟨session, hsession⟩

/-- A call that creates an adapter returns one that was not returned before. -/
theorem not_returns_of_creates (h : Apart view source r seen s) (hr : r.Lawful view)
    {v u : InstanceVisit σ τ ω α} (hv : v.before = s) {n : String} {config : InstanceConfig} {a : α}
    (hc : v.Creates source r n config a) (hu : u ∈ seen) : ¬ u.Returns a := by
  intro ha
  obtain ⟨session, hsession⟩ := h.session_of_returns hu ha
  obtain ⟨-, hfresh, -⟩ := hc.builds.untouched hr
  rw [hv, hsession] at hfresh
  cases hfresh

/-- Two calls return the same adapter just when one name is asked for in both. -/
theorem returns_iff (h : Apart view source r seen s) (hr : r.Lawful view) (w : τ)
    (call : InstanceCall ω) (u : InstanceVisit σ τ ω α) (hu : u ∈ seen) (a : α) (ha : u.Returns a) :
    (InstanceVisit.of source w call s).Returns a ↔
      ∃ n, u.Gets n a ∧ (InstanceVisit.of source w call s).Asks n := by
  constructor
  · intro hv
    rcases InstanceVisit.of_returned source w call s a hv with ⟨n, hasks, hkept, -⟩ | ⟨n, config, hc⟩
    · exact ⟨n, ⟨h.apart u hu n a ha hkept, ha⟩, hasks⟩
    · rw [h.accounted.registry] at hc
      exact absurd ha (h.not_returns_of_creates hr rfl hc hu)
  · rintro ⟨n, hgets, hasks⟩
    exact (InstanceVisit.of_kept source w call s hasks
      ((h.accounted.named n a).2 ⟨u, hu, hgets⟩)).1

theorem step (h : Apart view source r seen s) (hr : r.Lawful view) (w : τ) (call : InstanceCall ω)
    (hcall : call.Lawful view) :
    Apart view source r (seen ++ [.of source w call s])
      (InstanceVisit.of source w call s).after where
  accounted := h.accounted.step w call
  apart := by
    rw [List.forall_mem_append, List.forall_mem_singleton]
    constructor
    · intro u hu n a ha hkept
      rcases (InstanceVisit.of_kept_iff source w call s n a).1 hkept with hkept | ⟨hasks, hv⟩
      · exact h.apart u hu n a ha hkept
      · obtain ⟨m, hgets, hm⟩ := (h.returns_iff hr w call u hu a ha).1 hv
        cases hasks.unique hm
        exact hgets.1
    · intro n a hv hkept
      rcases (InstanceVisit.of_kept_iff source w call s n a).1 hkept with hkept | hgets
      · obtain ⟨u, hu, huasks, ha⟩ := (h.accounted.named n a).1 hkept
        obtain ⟨m, hgets, hm⟩ := (h.returns_iff hr w call u hu a ha).1 hv
        cases huasks.unique hgets.1
        exact hm
      · exact hgets.1
  carried := by
    have hlater := InstanceVisit.of_later source w (h.accounted.registry ▸ hr) hcall
    rw [List.forall_mem_append, List.forall_mem_singleton]
    constructor
    · intro u hu n config a hc
      obtain ⟨session, hsession, hname, hconfig⟩ := h.carried u hu n config a hc
      obtain ⟨session', hsession', hname', hconfig'⟩ := hlater a session hsession
      exact ⟨session', hsession', hname'.trans hname, hconfig'.trans hconfig⟩
    · intro n config a hc
      obtain ⟨-, -, session, hsession, hname, hconfig, -⟩ := hc.builds.untouched hr
      exact ⟨session, hsession, hname, hconfig⟩

theorem history (h : Apart view source r seen s) (hr : r.Lawful view)
    (turns : List (τ × InstanceCall ω)) (hcalls : ∀ turn ∈ turns, turn.2.Lawful view) :
    Apart view source r (seen ++ s.history source turns) (s.reached source turns) :=
  Site.history_induction (fun turn hturn _ _ h => h.step hr turn.1 turn.2 (hcalls turn hturn)) h

theorem safe (h : Apart view source r seen s) (hr : r.Lawful view) (w : τ) (call : InstanceCall ω)
    (hcall : call.Lawful view) : (InstanceVisit.of source w call s).Safe view source r seen where
  same := h.returns_iff hr w call
  carried := (h.step hr w call hcall).carried
  idle hown := by
    refine ⟨InstanceVisit.of_untouched source w (h.accounted.registry ▸ hr) hown, ?_⟩
    intro a ha
    rcases InstanceVisit.of_returned source w call s a ha with
      ⟨n, -, hkept, hafter⟩ | ⟨n, config, hc⟩
    · obtain ⟨u, hu, -, hreturns⟩ := (h.accounted.named n a).1 hkept
      obtain ⟨session, hsession⟩ := h.session_of_returns hu hreturns
      rw [hafter]
      exact ⟨session, hsession, .inl hsession⟩
    · rw [h.accounted.registry] at hc
      obtain ⟨-, -, session, hsession, -, -, hnone⟩ := hc.builds.untouched hr
      exact ⟨session, hsession, .inr hnone⟩

end Apart

theorem Site.history_concat (source : ConfigSource τ) (turns : List (τ × InstanceCall ω)) (w : τ)
    (call : InstanceCall ω) (s : Site σ ω α) :
    s.history source (turns ++ [(w, call)])
      = s.history source turns ++ [.of source w call (s.reached source turns)] := by
  induction turns generalizing s with
  | nil => rfl
  | cons turn turns ih => exact congrArg (_ :: ·) (ih _)

/-- **Named instances.**  Whatever is registered and whatever the source answers, a name keeps the
adapter that its first successful get made.  When the registered factories are lawful, nothing else
ever returns that adapter, however it is used meanwhile, and no call connects. -/
theorem Instances.history_fits (source : ConfigSource τ) (registry : Registry σ ω α) (drivers : ω)
    (turns : List (τ × InstanceCall ω)) (w : τ) (call : InstanceCall ω) :
    let start : Site σ ω α := ⟨{ registry }, drivers⟩
    let v := InstanceVisit.of source w call (start.reached source turns)
    start.history source (turns ++ [(w, call)]) = start.history source turns ++ [v] ∧
      v.Fits source registry (start.history source turns) ∧
      (∀ view : AdapterView σ ω α, registry.Lawful view →
        (∀ turn ∈ turns ++ [(w, call)], turn.2.Lawful view) →
          v.Safe view source registry (start.history source turns)) ∧
      (get source none : InstancesM σ τ ω α α) = get source (some "default") := by
  intro start v
  refine ⟨start.history_concat source turns w call, ?_, ?_, rfl⟩
  · exact ((Accounted.start source registry drivers).history turns).fits w call
  · intro view hr hcalls
    rw [List.forall_mem_append, List.forall_mem_singleton] at hcalls
    exact ((Apart.start view source registry drivers).history hr turns hcalls.1).safe hr w call
      hcalls.2

/-- A driver registered besides the dialects, an adapter that is used, and a source that fails and
changes its mind. -/
theorem Instances.history_fits_registered :
    let connector : Connector ScriptLog := Script.connector {}
    let registry := (Registry.standard AdapterStore.add fun _ => connector).register "maria"
      (AdapterStore.add .mysql) (pure connector)
    let source : ConfigSource (Except ConfigError Configs) := fun answer => (answer, answer)
    let start : Site ScriptLog (AdapterStore ScriptLog) Nat := ⟨{ registry }, { world := {} }⟩
    let turns : List (Except ConfigError Configs × InstanceCall (AdapterStore ScriptLog)) :=
      [(.ok [("default", { driver := " maria " })], .get none),
        (.ok [], .meanwhile (AdapterStore.use 0 (Session.execute "SELECT 1"))),
        (.error (.custom "gone"), .get (some "default"))]
    let v := InstanceVisit.of source (.ok [("default", { driver := "mysql" })]) (.make "default")
      (start.reached source turns)
    (start.history source turns ++ [v]).map (·.reply)
        = [.adapter 0, .done, .adapter 0, .adapter 1] ∧
      (start.history source turns ++ [v]).map (·.after.drivers.world.connects) = [0, 1, 1, 1] ∧
      v.Safe AdapterStore.view source registry (start.history source turns) := by
  intro connector registry source start turns v
  have hlawful : registry.Lawful AdapterStore.view :=
    (Registry.lawful_standard fun dialect => AdapterStore.lawful_add dialect connector).register
      "maria" (AdapterStore.lawful_add .mysql connector)
  have hcalls : ∀ turn ∈ turns ++ [(.ok [("default", { driver := "mysql" })], .make "default")],
      turn.2.Lawful AdapterStore.view := by
    have hused : ∀ d, AdapterStore.view.Later d (AdapterStore.use 0 (Session.execute "SELECT 1") d) :=
      AdapterStore.later_use (Session.named_execute (σ := ScriptLog) "SELECT 1")
    simpa [turns, InstanceCall.Lawful] using hused
  refine ⟨by rfl, by rfl, ?_⟩
  exact (history_fits source registry { world := {} } turns _ _).2.2.1 AdapterStore.view hlawful
    hcalls

/-- A factory that hands out one adapter again and again: two names have it. -/
example (connector : Connector Unit) :
    (Site.history (.memory [("a", { driver := "one" }), ("b", { driver := "one" })])
      [((), .get (some "a")), ((), .get (some "b"))]
      ⟨{ registry := Registry.register {} "one" (fun _ => pure ()) (pure connector) }, ()⟩).map
        (·.reply)
    = [.adapter (), .adapter ()] := by
  rfl

end SqlGateway
