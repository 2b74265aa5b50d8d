import SqlGateway.Proofs.Category
import SqlGateway.Proofs.Cursor.Step
import SqlGateway.Proofs.Session.Operation

/-!
# Runs of a cursor

What `next` yields when it is called again and again, on whatever the query
hands out: the items of the rows, the failure that ends them if there is one,
and nothing from then on.  A start that panics leaves the cursor new, so the
next call starts the query again.

    nexts n (cursor s) = the first n of   panics ++ items ++ failure ++ nothing, nothing, …
-/

namespace SqlGateway

variable {σ ε : Type}

/-! ## Algorithm -/

namespace Cursor

/-- What one call of `next` comes to. -/
abbrev Result (ε : Type) : Type :=
  Except SqlError (Option (Nat × Record ε))

/-- The results of `n` calls of `next`, and the reading then. -/
def nexts : Nat → Reading σ ε → List (Result ε) × Reading σ ε
  | 0, r => ([], r)
  | n + 1, r =>
    let (result, r) := next.run r
    let (results, r) := nexts n r
    (result :: results, r)

def Result.isRecord : Result ε → Bool
  | .ok (some _) => true
  | _ => false

/-- The result of a call when these items are to be yielded in all. -/
def resultAt (items : List (Item ε)) (n : Nat) : Result ε :=
  match items[n]? with
  | some item => item.map some
  | none => .ok none

/-- The rows that a started query hands out, and the failure that ends them. -/
def offered : Except SqlError Statement → List Row × Option SqlError
  | .error e => ([], some e)
  | .ok st => (st.drain.1, st.drain.2.map fun f => .ofFailure f fetchAction)

/-- The query of a request, as the session runs it. -/
def query (s : Select ε) : SessionM σ Statement := do
  let output ← s.performWith fun o => { o with output := some .statement }
  MonadExcept.ofExcept output.toStatement

/-- What the query of a request has to offer in a session. -/
def offer (s : Select ε) (c : Channel σ) : List Row × Option SqlError :=
  offered ((query s).run c).1

/-- All that is yielded from number `i` on. -/
def yields (s : Select ε) (hydrate : Bool) (rows : List Row) (failure : Option SqlError)
    (repository : Repository ε) (i : Nat) : List (Item ε) :=
  Event.items i (s.events hydrate rows repository) ++ failure.toList.map .error

/-- What `n` calls of `next` did, from a reading `r` with these rows to come.  They left the
session and its world as `c`. -/
structure Harvest (s : Select ε) (hydrate : Bool) (rows : List Row) (failure : Option SqlError)
    (c : Channel σ) (r : Reading σ ε) (n : Nat) (results : List (Result ε)) (r' : Reading σ ε) :
    Prop where
  /-- Each item once and in order, then nothing. -/
  yielded : results = (List.range n).map
    (resultAt (yields s hydrate rows failure r.desk.repository r.cursor.position))
  channel : r'.desk.channel = c
  position : r'.cursor.position = r.cursor.position + results.countP Result.isRecord
  /-- Each record read is shown to the filters once, up to the first that refuses. -/
  asked : r'.desk.asked = r.desk.asked
    ++ (Event.upTo n (s.events hydrate rows r.desk.repository)).flatMap (Event.tags s)
  /-- No row is read that `next` was not asked for. -/
  repository : r'.desk.repository = s.afterRows hydrate
    (rows.take (Event.upTo n (s.events hydrate rows r.desk.repository)).length) r.desk.repository
  exhausted :
    (yields s hydrate rows failure r.desk.repository r.cursor.position).length < n ∨
      failure.isSome ∧
        (yields s hydrate rows failure r.desk.repository r.cursor.position).length ≤ n →
    r'.cursor.state = .exhausted

/-- Nothing that nobody gets to see comes of starting the query. -/
def StartsCalmly (s : Select ε) (c : Channel σ) : Prop :=
  ∀ e c', (query s).run c = (.error e, c') → e.isPanic = false

/-- Starts of the query one after the other that panic, with what they panic with; they leave the
session and its world as `c'`. -/
inductive Panics (s : Select ε) : Channel σ → List SqlError → Channel σ → Prop where
  | none (c : Channel σ) : Panics s c [] c
  | start {c c₁ c' : Channel σ} {e : SqlError} {es : List SqlError}
      (hrun : (query s).run c = (.error e, c₁)) (hpanic : e.isPanic = true)
      (hrest : Panics s c₁ es c') : Panics s c (e :: es) c'

/-- What `n` calls of `next` on a new cursor did: first those that panicked, up to the channel `c`,
then from there what the others did. -/
structure Run (s : Select ε) (d : Desk σ ε) (n : Nat) (panics : List SqlError) (c : Channel σ)
    (results : List (Result ε)) (r' : Reading σ ε) : Prop where
  panicked : Panics s d.channel panics c
  /-- The query is started anew as long as it panics. -/
  started : panics.length = n ∨ panics.length < n ∧ StartsCalmly s c
  harvest : ∃ rest, results = panics.map .error ++ rest ∧
    Harvest s (isHydrating s.options.output) (offer s c).1 (offer s c).2
      (if panics.length = n then c else ((query s).run c).2)
      ⟨s.cursor, { d with channel := c }⟩ (n - panics.length) rest r'

/-! ## Lemmas -/

theorem nexts_succ {r r' : Reading σ ε} {result : Result ε} (h : next.run r = (result, r'))
    (n : Nat) : nexts (n + 1) r = (result :: (nexts n r').1, (nexts n r').2) := by
  rw [nexts, h]

theorem nexts_succ_congr {r r' : Reading σ ε} (h : next.run r = next.run r') (n : Nat) :
    nexts (n + 1) r = nexts (n + 1) r' := by
  rw [nexts, nexts, h]

theorem map_resultAt_cons (item : Item ε) (items : List (Item ε)) (n : Nat) :
    (List.range (n + 1)).map (resultAt (item :: items))
      = item.map some :: (List.range n).map (resultAt items) := by
  rw [List.range_succ_eq_map, List.map_cons, List.map_map]
  rfl

theorem nexts_exhausted {r : Reading σ ε} (h : r.cursor.state = .exhausted) (n : Nat) :
    nexts n r = ((List.range n).map (resultAt []), r) := by
  induction n with
  | zero => rfl
  | succ n ih =>
    rw [nexts_succ (run_next_exhausted h), ih, List.range_succ_eq_map, List.map_cons, List.map_map]
    rfl

end Cursor

theorem Select.events_cons {s : Select ε} {hydrate : Bool} {row : Row} {rest : List Row}
    {r r' : Repository ε} {event : Event ε} (h : s.event hydrate row r = (event, r')) :
    s.events hydrate (row :: rest) r = event :: s.events hydrate rest r' := by
  rw [events, h]

theorem Select.afterRows_cons {s : Select ε} {hydrate : Bool} {row : Row} (rest : List Row)
    {r r' : Repository ε} {event : Event ε} (h : s.event hydrate row r = (event, r')) :
    s.afterRows hydrate (row :: rest) r = s.afterRows hydrate rest r' := by
  rw [afterRows, h]

namespace Cursor

theorem harvest_zero (s : Select ε) (hydrate : Bool) (rows : List Row) (failure : Option SqlError)
    (r : Reading σ ε) : Harvest s hydrate rows failure r.desk.channel r 0 [] r where
  yielded := rfl
  channel := rfl
  position := rfl
  asked := by
    rw [Event.upTo]
    simp
  repository := by
    rw [Event.upTo]
    rfl
  exhausted := by
    unfold yields
    rintro (h | ⟨h, hlen⟩)
    · omega
    · cases failure with
      | none => cases h
      | some e => simp at hlen

/-- A row that yields an item: one call less for the others. -/
theorem Harvest.cons {s : Select ε} {hydrate : Bool} {row : Row} {rest : List Row}
    {failure : Option SqlError} {c : Channel σ} {r r₁ r' : Reading σ ε} {n : Nat}
    {results : List (Result ε)}
    {event : Event ε} {item : Item ε}
    (h : s.event hydrate row r.desk.repository = (event, r₁.desk.repository))
    (hitem : ∀ events, Event.items r.cursor.position (event :: events)
      = item :: Event.items r₁.cursor.position events)
    (hkept : event.isRefused = false)
    (hposition : r₁.cursor.position
      = r.cursor.position + [item.map some].countP Result.isRecord)
    (hasked : r₁.desk.asked = r.desk.asked ++ event.tags s)
    (H : Harvest s hydrate rest failure c r₁ n results r') :
    Harvest s hydrate (row :: rest) failure c r (n + 1) (item.map some :: results) r' := by
  have hyields : yields s hydrate (row :: rest) failure r.desk.repository r.cursor.position
      = item :: yields s hydrate rest failure r₁.desk.repository r₁.cursor.position := by
    unfold yields
    rw [Select.events_cons h, hitem, List.cons_append]
  have hupTo : Event.upTo (n + 1) (s.events hydrate (row :: rest) r.desk.repository)
      = event :: Event.upTo n (s.events hydrate rest r₁.desk.repository) := by
    rw [Select.events_cons h, Event.upTo, hkept]
    rfl
  constructor
  · rw [hyields, map_resultAt_cons, H.yielded]
  · exact H.channel
  · have hcount : (item.map some :: results).countP Result.isRecord
        = [item.map some].countP Result.isRecord + results.countP Result.isRecord := by
      rw [← List.countP_append]
      rfl
    rw [H.position, hposition, hcount]
    omega
  · rw [H.asked, hupTo, hasked, List.flatMap_cons, List.append_assoc]
  · rw [H.repository, hupTo, List.length_cons, List.take_succ_cons, Select.afterRows_cons _ h]
  · intro hend
    apply H.exhausted
    rw [hyields, List.length_cons] at hend
    rcases hend with hend | ⟨hf, hend⟩
    · left
      omega
    · right
      exact ⟨hf, by omega⟩

/-- A row that yields nothing: as many calls for the others. -/
theorem Harvest.skip {s : Select ε} {hydrate : Bool} {row : Row} {rest : List Row}
    {failure : Option SqlError} {c : Channel σ} {r r₁ r' : Reading σ ε} {n : Nat}
    {results : List (Result ε)}
    (record : Record ε)
    (h : s.event hydrate row r.desk.repository = (.refused record, r₁.desk.repository))
    (hposition : r₁.cursor.position = r.cursor.position)
    (hasked : r₁.desk.asked = r.desk.asked ++ s.tagsFor record)
    (H : Harvest s hydrate rest failure c r₁ (n + 1) results r') :
    Harvest s hydrate (row :: rest) failure c r (n + 1) results r' := by
  have hyields : yields s hydrate (row :: rest) failure r.desk.repository r.cursor.position
      = yields s hydrate rest failure r₁.desk.repository r₁.cursor.position := by
    unfold yields
    rw [Select.events_cons h, hposition]
    rfl
  have hupTo : Event.upTo (n + 1) (s.events hydrate (row :: rest) r.desk.repository)
      = .refused record :: Event.upTo (n + 1) (s.events hydrate rest r₁.desk.repository) := by
    rw [Select.events_cons h, Event.upTo]
    rfl
  constructor
  · rw [hyields, H.yielded]
  · exact H.channel
  · rw [H.position, hposition]
  · rw [H.asked, hupTo, hasked, List.flatMap_cons, List.append_assoc]
    rfl
  · rw [H.repository, hupTo, List.length_cons, List.take_succ_cons, Select.afterRows_cons _ h]
  · rw [hyields]
    exact H.exhausted

/-- Nothing is left but the failure, if there is one. -/
theorem harvest_nil (s : Select ε) (hydrate : Bool) (failure : Option SqlError)
    {r : Reading σ ε} (r₁ : Reading σ ε) (n : Nat) (hstate : r₁.cursor.state = .exhausted)
    (hposition : r₁.cursor.position = r.cursor.position) (hdesk : r₁.desk.asked = r.desk.asked)
    (hrepository : r₁.desk.repository = r.desk.repository)
    (hnext : next.run r = (match failure with
      | some e => .error e
      | none => .ok none, r₁)) :
    Harvest s hydrate [] failure r₁.desk.channel r (n + 1) (nexts (n + 1) r).1 (nexts (n + 1) r).2 := by
  rw [nexts_succ hnext, nexts_exhausted hstate]
  constructor
  · cases failure with
    | some e => exact (map_resultAt_cons (.error e) [] n).symm
    | none =>
      show _ = (List.range (n + 1)).map (resultAt [])
      rw [List.range_succ_eq_map, List.map_cons, List.map_map]
      rfl
  · rfl
  · have hnone : ((List.range n).map (resultAt ([] : List (Item ε)))).countP Result.isRecord = 0 := by
      rw [List.countP_eq_zero]
      intro result hmem
      obtain ⟨j, -, rfl⟩ := List.mem_map.1 hmem
      simp [resultAt, Result.isRecord]
    cases failure with
    | some e =>
      show _ = _ + (Except.error e :: (List.range n).map _).countP _
      rw [List.countP_cons_of_neg (by simp [Result.isRecord]), hnone, hposition]
      rfl
    | none =>
      show _ = _ + (Except.ok none :: (List.range n).map _).countP _
      rw [List.countP_cons_of_neg (by simp [Result.isRecord]), hnone, hposition]
      rfl
  · show r₁.desk.asked = r.desk.asked ++ []
    rw [hdesk, List.append_nil]
  · exact hrepository
  · intro _
    exact hstate

/-- A query that was started: each call is a step, by the row that comes first. -/
theorem harvest_fetching {r : Reading σ ε} {st : Statement} {hydrate : Bool} {rows : List Row}
    {failure : Option DriverFailure} (h : r.cursor.state = .fetching st hydrate)
    (hd : st.drain = (rows, failure)) (n : Nat) :
    Harvest r.cursor.request hydrate rows (failure.map fun f => .ofFailure f fetchAction)
      r.desk.channel r n (nexts n r).1 (nexts n r).2 := by
  induction n generalizing r st rows with
  | zero => exact harvest_zero ..
  | succ n ihn =>
    induction rows generalizing r st with
    | nil =>
      have hnext := run_next_nil h hd
      refine harvest_nil _ hydrate _ { r with cursor := { r.cursor with state := .exhausted } } n
        rfl rfl rfl rfl ?_
      cases failure <;> exact hnext
    | cons row rest ihr =>
      obtain ⟨st', hd', hnext⟩ := run_next_cons h hd
      rcases hevent : r.cursor.request.event hydrate row r.desk.repository with ⟨event, repository⟩
      rw [hevent] at hnext
      -- A refused row is passed over within the call; any other is the call's own.
      cases event with
      | failed e =>
        have H := ihn (r := r.after (.failed e) repository st' hydrate) rfl hd'
        rw [nexts_succ hnext]
        exact H.cons hevent (fun _ => rfl) rfl rfl rfl
      | accepted record =>
        have H := ihn (r := r.after (.accepted record) repository st' hydrate) rfl hd'
        rw [nexts_succ hnext]
        exact H.cons hevent (fun _ => rfl) rfl rfl rfl
      | refused record =>
        have H := ihr (r := r.after (.refused record) repository st' hydrate) rfl hd'
        rw [nexts_succ_congr hnext]
        refine Harvest.skip record ?_ ?_ ?_ H
        · exact hevent
        · rfl
        · rfl

/-! ## The start -/

theorem Harvest.of_started {s : Select ε} {hydrate : Bool} {rows : List Row}
    {failure : Option SqlError} {c : Channel σ} {r r₁ r' : Reading σ ε} {n : Nat}
    {results : List (Result ε)}
    (hposition : r₁.cursor.position = r.cursor.position) (hasked : r₁.desk.asked = r.desk.asked)
    (hrepository : r₁.desk.repository = r.desk.repository)
    (H : Harvest s hydrate rows failure c r₁ n results r') :
    Harvest s hydrate rows failure c r n results r' := by
  constructor
  · rw [← hposition, ← hrepository]
    exact H.yielded
  · exact H.channel
  · rw [← hposition]
    exact H.position
  · rw [← hasked, ← hrepository]
    exact H.asked
  · rw [← hrepository]
    exact H.repository
  · rw [← hposition, ← hrepository]
    exact H.exhausted

theorem run_openStatement (s : Select ε) (d : Desk σ ε) :
    (openStatement s : DeskM σ ε Statement).run d
      = (((query s).run d.channel).1, { d with channel := ((query s).run d.channel).2 }) := by
  unfold openStatement query
  rw [run_bind, run_bind, Desk.run_onSession]
  rcases (s.performWith fun o => { o with output := some .statement }).run d.channel
    with ⟨res, channel⟩
  cases res with
  | error e => rfl
  | ok output => cases output <;> rfl

theorem run_query (s : Select ε) (c : Channel σ) :
    (query s).run c = (built (s.textWith c.session.idField fun o =>
      { o with output := some .statement }) >>= Session.statement).run c := by
  unfold query
  rw [Select.run_performWith_bind s _ .statement fun _ => rfl]
  refine congrArg (fun f => (built _ >>= f).run c) (funext fun sql => ?_)
  exact reread (Session.statement sql) Output.statement Output.toStatement fun _ => rfl

/-- Of the drivers' failures, a failure to start is one as well. -/
theorem ofFailure_of_query {s : Select ε} {c c' : Channel σ} {e : SqlError}
    (h : (query s).run c = (.error e, c')) (he : e.isDriver = true) :
    ∃ f action, e = .ofFailure f action := by
  rw [run_query, run_built_bind] at h
  cases hb : s.textWith c.session.idField fun o => { o with output := some .statement } with
  | error cause =>
    rw [hb] at h
    cases h
    cases he
  | ok sql =>
    rw [hb] at h
    have hrun : (Session.native sql (·.query sql)).run c = (.error e, c') := h
    rcases Session.native_cases c.session c.world sql (·.query sql) with
      ⟨f, w', -, hn⟩ | ⟨connection, w', -, hn⟩
    · rw [hn] at hrun
      cases hrun
      exact ⟨f, _, rfl⟩
    · rw [hn] at hrun
      rcases hq : (connection.query sql).run w' with ⟨res, w''⟩
      rw [hq] at hrun
      cases res with
      | error f =>
        cases hrun
        exact ⟨f, sql, rfl⟩
      | ok st => cases hrun

theorem run_next_of_query_error {s : Select ε} {d : Desk σ ε} {e : SqlError} {c : Channel σ}
    (h : (query s).run d.channel = (.error e, c)) :
    next.run ⟨s.cursor, d⟩
      = (.error e, ⟨{ s.cursor with state := stateAfter e }, { d with channel := c }⟩) := by
  have hopen : (openStatement s : DeskM σ ε Statement).run d
      = (.error e, { d with channel := c }) := by
    rw [run_openStatement, h]
  have hnext := run_next_unstarted (r := ⟨s.cursor, d⟩) rfl
  have hrequest : s.cursor.request = s := rfl
  simp only [hrequest, hopen] at hnext
  exact hnext

theorem run_next_of_query_ok {s : Select ε} {d : Desk σ ε} {st : Statement} {c : Channel σ}
    (h : (query s).run d.channel = (.ok st, c)) :
    next.run ⟨s.cursor, d⟩ = next.run
      ⟨{ s.cursor with state := .fetching st (isHydrating s.options.output) },
        { d with channel := c }⟩ := by
  have hopen : (openStatement s : DeskM σ ε Statement).run d
      = (.ok st, { d with channel := c }) := by
    rw [run_openStatement, h]
  have hnext := run_next_unstarted (r := ⟨s.cursor, d⟩) rfl
  have hrequest : s.cursor.request = s := rfl
  simp only [hrequest, hopen] at hnext
  exact hnext

theorem harvest_unstarted (s : Select ε) (d : Desk σ ε) (n : Nat)
    (hcalm : StartsCalmly s d.channel) :
    Harvest s (isHydrating s.options.output) (offer s d.channel).1 (offer s d.channel).2
      (if n = 0 then d.channel else ((query s).run d.channel).2) ⟨s.cursor, d⟩ n
      (nexts n ⟨s.cursor, d⟩).1 (nexts n ⟨s.cursor, d⟩).2 := by
  cases n with
  | zero => exact harvest_zero s _ _ _ ⟨s.cursor, d⟩
  | succ n =>
    unfold offer
    rcases hq : (query s).run d.channel with ⟨res, channel⟩
    show Harvest s _ _ _ channel _ _ _ _
    cases res with
    | error e =>
      have hstate : stateAfter e = .exhausted := by
        rw [stateAfter, hcalm e channel hq]
        rfl
      exact harvest_nil s _ (some e) ⟨{ s.cursor with state := stateAfter e }, { d with channel }⟩ n
        hstate rfl rfl rfl (run_next_of_query_error hq)
    | ok st =>
      have H := harvest_fetching
        (r := ⟨{ s.cursor with state := .fetching st (isHydrating s.options.output) },
          { d with channel }⟩) rfl (show st.drain = (st.drain.1, st.drain.2) from rfl) (n + 1)
      rw [nexts_succ_congr (run_next_of_query_ok hq)]
      refine Harvest.of_started ?_ ?_ ?_ H
      · rfl
      · rfl
      · rfl

/-- A start that panics leaves the cursor as it was. -/
theorem run_next_of_panic {s : Select ε} {d : Desk σ ε} {e : SqlError} {c : Channel σ}
    (hrun : (query s).run d.channel = (.error e, c)) (hpanic : e.isPanic = true) :
    next.run ⟨s.cursor, d⟩ = (.error e, ⟨s.cursor, { d with channel := c }⟩) := by
  have hstate : stateAfter e = .unstarted := by
    rw [stateAfter, hpanic]
    rfl
  rw [run_next_of_query_error hrun, hstate]
  rfl

/-- By induction on the calls: each either starts the query calmly, and the others follow from
there, or panics and leaves the cursor new. -/
theorem run_unstarted (s : Select ε) (d : Desk σ ε) (n : Nat) :
    ∃ panics c, Run s d n panics c (nexts n ⟨s.cursor, d⟩).1 (nexts n ⟨s.cursor, d⟩).2 := by
  induction n generalizing d with
  | zero =>
    exact ⟨[], d.channel, .none _, .inl rfl, [], rfl, harvest_zero s _ _ _ ⟨s.cursor, d⟩⟩
  | succ n ih =>
    by_cases hcalm : StartsCalmly s d.channel
    · refine ⟨[], d.channel, .none _, .inr ⟨Nat.succ_pos n, hcalm⟩, _, rfl, ?_⟩
      exact harvest_unstarted s d (n + 1) hcalm
    · obtain ⟨e, c₁, hrun, hpanic⟩ : ∃ e c₁, (query s).run d.channel = (.error e, c₁) ∧
          e.isPanic = true := by
        simpa [StartsCalmly] using hcalm
      obtain ⟨panics, c, hpanics, hstarted, rest, hresults, H⟩ := ih { d with channel := c₁ }
      rw [nexts_succ (run_next_of_panic hrun hpanic)]
      refine ⟨e :: panics, c, .start hrun hpanic hpanics, ?_, rest, ?_, ?_⟩
      · simpa using hstarted
      · rw [hresults]
        rfl
      · rw [List.length_cons, Nat.add_sub_add_right]
        simpa using H

/-- **A cursor from end to end.**  Items once and in order, numbers without a gap, filters asked
once a record; at the end, and after a failure of the query or of a fetch, nothing, for ever.  A
row fails only when its object is neither at hand nor to be made.  A failure of a driver is yielded
but for one that cannot be classified, and that is a panic; only a start that panics is tried
again. -/
theorem run_nexts (s : Select ε) (d : Desk σ ε) (n : Nat) :
    (∃ panics c, Run s d n panics c (nexts n ⟨s.cursor, d⟩).1 (nexts n ⟨s.cursor, d⟩).2) ∧
    (∀ (c : Channel σ) (r : Repository ε),
      (yields s (isHydrating s.options.output) (offer s c).1 (offer s c).2 r 0).filterMap
        Item.number? = List.range ((s.events (isHydrating s.options.output) (offer s c).1
          r).countP Event.isAccepted)) ∧
    (∀ r : Reading σ ε, r.cursor.state = .exhausted →
      next.run r = (.ok none, r) ∧ fetch.run r = (.ok none, r)) ∧
    (∀ (hydrate : Bool) (row : Row) (r : Repository ε) (e : SqlError),
      (s.event hydrate row r).1 = .failed e ↔ hydrate = true ∧
        (if s.usingCache then r.keyOf? row else none).bind r.find? = none ∧
        r.ofRow row = .error e) ∧
    ∀ (c : Channel σ) (e : SqlError), (offer s c).2 = some e → e.isDriver = true →
      ∃ f action, e = .ofFailure f action ∧ (e.isPanic = true ↔ f.Unclassifiable) := by
  refine ⟨run_unstarted s d n, ?_, ?_, ?_, ?_⟩
  · intro c r
    unfold yields
    rw [List.filterMap_append, Event.filterMap_number?_items, List.range_eq_range']
    cases (offer s c).2 with
    | none => exact List.append_nil _
    | some e => exact List.append_nil _
  · intro r h
    exact ⟨run_next_exhausted h, run_fetch_exhausted h⟩
  · intro hydrate row r e
    rw [s.event_eq_failed_iff, r.load_eq_error_iff]
  · intro c e he hdriver
    have hfailure : ∃ f action, e = .ofFailure f action := by
      unfold offer at he
      rcases hq : (query s).run c with ⟨res, c'⟩
      rw [hq] at he
      cases res with
      | error e' =>
        cases he
        exact ofFailure_of_query hq hdriver
      | ok st =>
        obtain ⟨f, -, rfl⟩ := Option.map_eq_some_iff.1 he
        exact ⟨f, fetchAction, rfl⟩
    obtain ⟨f, action, rfl⟩ := hfailure
    exact ⟨f, action, rfl, SqlError.isPanic_ofFailure_iff f action⟩

end Cursor

end SqlGateway
