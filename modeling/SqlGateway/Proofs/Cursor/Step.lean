import SqlGateway.Proofs.Cursor.Event
import SqlGateway.Proofs.Session.Step
import SqlGateway.Proofs.Statement.Fetch

/-!
# Steps of a cursor

What one `fetch` and one `next` do to a cursor and its desk, by the event of
the row that comes.  A refused row makes no difference to `next` but that it is
gone, so `next` starts over from there.

    next at a refused row = next after it
-/

namespace SqlGateway

variable {σ ε α : Type}

/-! ## The desk -/

namespace Desk

theorem run_onSession (act : SessionM σ α) (d : Desk σ ε) :
    (onSession act : DeskM σ ε α).run d
      = ((act.run d.channel).1, { d with channel := (act.run d.channel).2 }) := by
  unfold onSession
  rw [run_bind_ok (run_get d)]
  rcases act.run d.channel with ⟨res, channel⟩
  cases res <;> rfl

theorem run_load (row : Row) (useCache : Bool) (d : Desk σ ε) :
    (load row useCache : DeskM σ ε (Object ε)).run d
      = ((d.repository.load row useCache).1,
        { d with repository := (d.repository.load row useCache).2 }) := by
  unfold load
  rw [run_bind_ok (run_get d)]
  rcases d.repository.load row useCache with ⟨res, repository⟩
  cases res <;> rfl

/-- The filters are asked up to the first that refuses, and all must accept. -/
theorem run_passes (record : Record ε) (filters : List (Filter ε)) (d : Desk σ ε) :
    (passes record filters : DeskM σ ε Bool).run d
      = (.ok (filters.all fun f => f.test record),
        { d with asked := d.asked ++ (filters.takeWhile (fun f => f.test record)
          ++ (filters.dropWhile fun f => f.test record).take 1).map (·.tag) }) := by
  induction filters generalizing d with
  | nil =>
    simp only [List.takeWhile_nil, List.dropWhile_nil, List.take_nil, List.append_nil,
      List.map_nil]
    rfl
  | cons f rest ih =>
    unfold passes
    rw [run_bind_ok (run_modify _ d)]
    cases ht : f.test record with
    | false =>
      simp only [List.all_cons, List.takeWhile_cons, List.dropWhile_cons, ht]
      rfl
    | true =>
      simp only [if_true]
      rw [ih]
      simp only [List.all_cons, List.takeWhile_cons, List.dropWhile_cons, ht, if_true,
        Bool.true_and, List.cons_append, List.map_cons, List.append_assoc, List.nil_append]

end Desk

/-- The reading after a row: `event` is what it came to, `st` the statement then. -/
def Reading.after (r : Reading σ ε) (event : Event ε)
    (repository : Repository ε) (st : Statement) (hydrate : Bool) : Reading σ ε where
  cursor := { r.cursor with
    state := .fetching st hydrate
    position := if event.isAccepted then r.cursor.position + 1 else r.cursor.position }
  desk := { r.desk with
    repository
    asked := r.desk.asked ++ event.tags r.cursor.request }

namespace Cursor

theorem run_onDesk (act : DeskM σ ε α) (r : Reading σ ε) :
    (onDesk act).run r = ((act.run r.desk).1, { r with desk := (act.run r.desk).2 }) := by
  unfold onDesk
  rw [run_bind_ok (run_get r)]
  rcases act.run r.desk with ⟨res, desk⟩
  cases res <;> rfl

theorem run_setState (state : CursorState) (r : Reading σ ε) :
    (setState state).run r = (.ok (), { r with cursor := { r.cursor with state } }) := rfl

/-! ## One fetch -/

theorem run_start_exhausted {r : Reading σ ε} (h : r.cursor.state = .exhausted) :
    start.run r = (.ok (), r) := by
  unfold start
  rw [run_bind_ok (run_get r)]
  simp only [h]
  rfl

theorem run_start_fetching {r : Reading σ ε} {st : Statement} {hydrate : Bool}
    (h : r.cursor.state = .fetching st hydrate) : start.run r = (.ok (), r) := by
  unfold start
  rw [run_bind_ok (run_get r)]
  simp only [h]
  rfl

/-- At the end there is nothing more, and nothing is touched. -/
theorem run_fetch_exhausted {r : Reading σ ε} (h : r.cursor.state = .exhausted) :
    fetch.run r = (.ok none, r) := by
  unfold fetch
  rw [run_bind_ok (run_start_exhausted h), run_bind_ok (run_get r)]
  simp only [h]
  rfl

theorem run_fetch_nil {r : Reading σ ε} {st : Statement} {hydrate : Bool}
    {failure : Option DriverFailure} (h : r.cursor.state = .fetching st hydrate)
    (hd : st.drain = ([], failure)) :
    fetch.run r = (match failure with
      | some f => .error (.ofFailure f fetchAction)
      | none => .ok none, { r with cursor := { r.cursor with state := .exhausted } }) := by
  have hf := Statement.fetch_of_drain_nil hd
  unfold fetch
  rw [run_bind_ok (run_start_fetching h), run_bind_ok (run_get r)]
  rcases hst : st.fetch with ⟨res, st'⟩
  rw [hst] at hf
  simp only [h, hst]
  cases failure with
  | some f =>
    cases hf
    rfl
  | none =>
    cases hf
    rfl

theorem run_fetch_cons {r : Reading σ ε} {st st' : Statement} {hydrate : Bool} {row : Row}
    (h : r.cursor.state = .fetching st hydrate) (hf : st.fetch = (.ok (some row), st')) :
    fetch.run r = ((r.cursor.request.record hydrate row r.desk.repository).1.map some,
      { cursor := { r.cursor with state := .fetching st' hydrate }
        desk := { r.desk with
          repository := (r.cursor.request.record hydrate row r.desk.repository).2 } }) := by
  unfold fetch
  rw [run_bind_ok (run_start_fetching h), run_bind_ok (run_get r)]
  simp only [h, hf]
  rw [run_bind_ok (run_setState (.fetching st' hydrate) r)]
  unfold Select.record
  cases hydrate with
  | false => rfl
  | true =>
    simp only [if_true]
    rw [run_bind, run_onDesk, Desk.run_load]
    rcases r.desk.repository.load row r.cursor.request.usingCache with ⟨res, repository⟩
    cases res <;> rfl

/-! ## One next -/

theorem run_nextWithin_cons {r : Reading σ ε} {st st' : Statement} {hydrate : Bool} {row : Row}
    (fuel : Nat) (h : r.cursor.state = .fetching st hydrate)
    (hf : st.fetch = (.ok (some row), st')) :
    (nextWithin (fuel + 1)).run r =
      match r.cursor.request.event hydrate row r.desk.repository with
      | (.failed e, repository) => (.error e, r.after (.failed e) repository st' hydrate)
      | (.refused record, repository) =>
        (nextWithin fuel).run (r.after (.refused record) repository st' hydrate)
      | (.accepted record, repository) => (.ok (some (r.cursor.position, record)),
        r.after (.accepted record) repository st' hydrate) := by
  have hfetch := run_fetch_cons h hf
  rcases hrec : r.cursor.request.record hydrate row r.desk.repository with ⟨res, repository⟩
  rw [hrec] at hfetch
  cases res with
  | error e =>
    rw [Select.event_of_error hrec, nextWithin, run_bind_error hfetch]
    simp only [Reading.after, Event.tags, Event.isAccepted, List.append_nil]
    rfl
  | ok record =>
    rw [Select.event_of_ok hrec, nextWithin, run_bind_ok hfetch]
    simp only []
    rw [run_bind_ok (run_get _)]
    simp only []
    rw [run_bind, run_onDesk, Desk.run_passes]
    cases ha : r.cursor.request.accepts record with
    | true =>
      have hall : (r.cursor.request.filters.all fun f => f.test record) = true := ha
      simp only [hall, if_true]
      rfl
    | false =>
      have hall : (r.cursor.request.filters.all fun f => f.test record) = false := ha
      simp only [hall]
      rfl

theorem run_next_of_start {r : Reading σ ε} (h : start.run r = (.ok (), r)) :
    next.run r = (nextWithin (r.cursor.pending + 1)).run r := by
  unfold next
  rw [run_bind_ok h, run_bind_ok (run_get r)]

theorem pending_eq {c : Cursor ε} {st : Statement} {hydrate : Bool}
    (h : c.state = .fetching st hydrate) : c.pending = st.left := by
  unfold pending
  rw [h]
  rfl

/-- A refused row makes no difference but that it is gone. -/
theorem run_next_cons {r : Reading σ ε} {st : Statement} {hydrate : Bool} {row : Row}
    {rest : List Row} {failure : Option DriverFailure} (h : r.cursor.state = .fetching st hydrate)
    (hd : st.drain = (row :: rest, failure)) :
    ∃ st' : Statement, st'.drain = (rest, failure) ∧
      next.run r = match r.cursor.request.event hydrate row r.desk.repository with
        | (.failed e, repository) => (.error e, r.after (.failed e) repository st' hydrate)
        | (.refused record, repository) =>
          next.run (r.after (.refused record) repository st' hydrate)
        | (.accepted record, repository) => (.ok (some (r.cursor.position, record)),
          r.after (.accepted record) repository st' hydrate) := by
  obtain ⟨st', hf, hd', hleft⟩ := Statement.fetch_of_drain_cons hd
  refine ⟨st', hd', ?_⟩
  rw [run_next_of_start (run_start_fetching h), run_nextWithin_cons _ h hf, pending_eq h, hleft]
  rcases r.cursor.request.event hydrate row r.desk.repository with ⟨event, repository⟩
  cases event with
  | failed e => rfl
  | accepted record => rfl
  | refused record =>
    have hstate : (r.after (.refused record) repository st' hydrate).cursor.state
      = .fetching st' hydrate := rfl
    show _ = next.run (r.after (.refused record) repository st' hydrate)
    rw [run_next_of_start (run_start_fetching hstate), pending_eq hstate]

theorem run_next_of_fetch_error {r r' : Reading σ ε} {e : SqlError}
    (hs : start.run r = (.ok (), r)) (hf : fetch.run r = (.error e, r')) :
    next.run r = (.error e, r') := by
  rw [run_next_of_start hs, nextWithin, run_bind_error hf]

theorem run_next_of_fetch_none {r r' : Reading σ ε} (hs : start.run r = (.ok (), r))
    (hf : fetch.run r = (.ok none, r')) : next.run r = (.ok none, r') := by
  rw [run_next_of_start hs, nextWithin, run_bind_ok hf]
  rfl

theorem run_next_nil {r : Reading σ ε} {st : Statement} {hydrate : Bool}
    {failure : Option DriverFailure} (h : r.cursor.state = .fetching st hydrate)
    (hd : st.drain = ([], failure)) :
    next.run r = (match failure with
      | some f => .error (.ofFailure f fetchAction)
      | none => .ok none, { r with cursor := { r.cursor with state := .exhausted } }) := by
  have hfetch := run_fetch_nil h hd
  cases failure with
  | some f => exact run_next_of_fetch_error (run_start_fetching h) hfetch
  | none => exact run_next_of_fetch_none (run_start_fetching h) hfetch

theorem run_next_exhausted {r : Reading σ ε} (h : r.cursor.state = .exhausted) :
    next.run r = (.ok none, r) :=
  run_next_of_fetch_none (run_start_exhausted h) (run_fetch_exhausted h)

/-! ## The start -/

/-- The state of a cursor whose query failed with `e`. -/
def stateAfter (e : SqlError) : CursorState :=
  if e.isPanic then .unstarted else .exhausted

theorem run_start_unstarted {r : Reading σ ε} (h : r.cursor.state = .unstarted) :
    start.run r = match (openStatement r.cursor.request : DeskM σ ε Statement).run r.desk with
      | (.error e, desk) => (.error e, ⟨{ r.cursor with state := stateAfter e }, desk⟩)
      | (.ok st, desk) => (.ok (), ⟨{ r.cursor with
          state := .fetching st (isHydrating r.cursor.request.options.output) }, desk⟩) := by
  unfold start
  rw [run_bind_ok (run_get r)]
  simp only [h]
  rw [run_bind, run_tryCatch, run_onDesk]
  rcases (openStatement r.cursor.request : DeskM σ ε Statement).run r.desk with ⟨res, desk⟩
  cases res with
  | ok st => rfl
  | error e =>
    unfold stateAfter
    cases hpanic : e.isPanic with
    | true =>
      simp only [hpanic, if_true, ← h]
      rfl
    | false =>
      simp only [hpanic, Bool.false_eq_true, if_false]
      rfl

/-- What begins by starting a cursor that has run nothing: a failure to start is the failure, and
else it is as if the cursor had been started before. -/
theorem run_start_bind_unstarted {r : Reading σ ε} (h : r.cursor.state = .unstarted)
    (k : Unit → ReadingM σ ε α) :
    (start >>= k).run r =
      match (openStatement r.cursor.request : DeskM σ ε Statement).run r.desk with
      | (.error e, desk) => (.error e, ⟨{ r.cursor with state := stateAfter e }, desk⟩)
      | (.ok st, desk) => (start >>= k).run ⟨{ r.cursor with
          state := .fetching st (isHydrating r.cursor.request.options.output) }, desk⟩ := by
  rw [run_bind, run_start_unstarted h]
  rcases (openStatement r.cursor.request : DeskM σ ε Statement).run r.desk with ⟨res, desk⟩
  cases res with
  | error e => rfl
  | ok st =>
    let r' : Reading σ ε := ⟨{ r.cursor with
      state := .fetching st (isHydrating r.cursor.request.options.output) }, desk⟩
    have hstart : start.run r' = (.ok (), r') := run_start_fetching rfl
    exact (run_bind_ok hstart k).symm

theorem run_next_unstarted {r : Reading σ ε} (h : r.cursor.state = .unstarted) :
    next.run r = match (openStatement r.cursor.request : DeskM σ ε Statement).run r.desk with
      | (.error e, desk) => (.error e, ⟨{ r.cursor with state := stateAfter e }, desk⟩)
      | (.ok st, desk) => next.run ⟨{ r.cursor with
          state := .fetching st (isHydrating r.cursor.request.options.output) }, desk⟩ :=
  run_start_bind_unstarted h _

end Cursor

end SqlGateway
