import SqlGateway.Proofs.Repository.Load
import SqlGateway.Proofs.Request.Preview

/-!
# All objects at once, or one by one

The objects of a select come all at once from all its rows, or one by one from
a cursor that reads a row when it is asked for the next.  Where every row makes
an object, both leave the desk alike.

    objects s = os   →   nexts n (cursor s) = os numbered from 0 on, then nothing
-/

namespace SqlGateway

variable {σ ε : Type}

/-! ## Algorithm -/

namespace Event

/-- The object that the filters accept. -/
def object? : Event ε → Option (Object ε)
  | .accepted (.object o) => some o
  | _ => none

/-- The row made an object, whether or not the filters accept it. -/
def MakesObject : Event ε → Prop
  | .refused (.object _) | .accepted (.object _) => True
  | _ => False

end Event

/-- The desk after rows whose objects were shown to the filters. -/
def Desk.afterRows (d : Desk σ ε) (s : Select ε) (rows : List Row) : Desk σ ε :=
  { d with
    repository := s.afterRows true rows d.repository
    asked := d.asked ++ (s.events true rows d.repository).flatMap (Event.tags s) }

/-- The items of a cursor that yields these objects, the first with number `i`. -/
def numbered (i : Nat) (objects : List (Object ε)) : List (Item ε) :=
  (objects.zipIdx i).map fun o => .ok (o.2, .object o.1)

/-! ## Events that make objects -/

namespace Select

/-- A row of which an object can be made does make one. -/
theorem makesObject_event (s : Select ε) {row : Row} {r : Repository ε} {value : ε}
    (h : r.ofRow row = .ok value) : (s.event true row r).1.MakesObject := by
  have hload := r.loads_load row s.usingCache
  unfold event record
  simp only [if_true]
  generalize r.load row s.usingCache = res at hload
  have haccepts : ∀ o : Object ε, (if s.accepts (.object o) then Event.accepted (.object o)
      else .refused (.object o)).MakesObject := by
    intro o
    split <;> trivial
  cases hload with
  | found key o hkey hfind => exact haccepts o
  | failed e hmiss hrow => cases h.symm.trans hrow
  | kept key value hkey hmiss hrow => exact haccepts _
  | passed value hkey hrow => exact haccepts _

/-- Reading a row does not change how objects are made. -/
theorem ofRow_event (s : Select ε) (row : Row) (r : Repository ε) :
    (s.event true row r).2.ofRow = r.ofRow := by
  have hsource := (r.sameSource_perform (.load row s.usingCache)).ofRow
  rw [Repository.perform_load] at hsource
  unfold event record
  simp only [if_true]
  rcases hres : r.load row s.usingCache with ⟨res, r'⟩
  rw [hres] at hsource
  cases res <;> exact hsource

theorem makesObject_of_mem (s : Select ε) {rows : List Row} {r : Repository ε}
    (h : ∀ row ∈ rows, ∃ value, r.ofRow row = .ok value) :
    ∀ e ∈ s.events true rows r, e.MakesObject := by
  induction rows generalizing r with
  | nil => exact nofun
  | cons row rest ih =>
    obtain ⟨⟨value, hrow⟩, hrest⟩ := List.forall_mem_cons.1 h
    have hfirst := s.makesObject_event hrow
    have hsame := s.ofRow_event row r
    rcases hevent : s.event true row r with ⟨event, r'⟩
    rw [hevent] at hfirst hsame
    rw [events_cons hevent, List.forall_mem_cons]
    refine ⟨hfirst, ih ?_⟩
    intro row' hmem
    rw [hsame]
    exact hrest row' hmem

end Select

namespace Event

theorem isRefused_iff {e : Event ε} (h : e.MakesObject) : e.isRefused = true ↔ e.object? = none := by
  match e with
  | .refused (.object o) => simp [isRefused, object?]
  | .accepted (.object o) => simp [isRefused, object?]

theorem items_cons {e : Event ε} (h : e.MakesObject) (i : Nat) (rest : List (Event ε)) :
    items i (e :: rest) = match e.object? with
      | some o => .ok (i, .object o) :: items (i + 1) rest
      | none => items i rest := by
  match e with
  | .refused (.object o) => rfl
  | .accepted (.object o) => rfl

/-- Where every row makes an object, the items are the accepted ones. -/
theorem items_eq_numbered (i : Nat) {events : List (Event ε)}
    (h : ∀ e ∈ events, e.MakesObject) : items i events = numbered i (events.filterMap object?) := by
  induction events generalizing i with
  | nil => rfl
  | cons e rest ih =>
    obtain ⟨hfirst, hrest⟩ := List.forall_mem_cons.1 h
    rw [items_cons hfirst, List.filterMap_cons]
    cases e.object? with
    | none => exact ih i hrest
    | some o =>
      show _ :: items (i + 1) rest = _
      rw [ih (i + 1) hrest]
      rfl

/-- With more calls than there are objects, all rows are read. -/
theorem upTo_of_lt {n : Nat} {events : List (Event ε)} (h : ∀ e ∈ events, e.MakesObject)
    (hn : (events.filterMap object?).length < n) : upTo n events = events := by
  induction events generalizing n with
  | nil =>
    cases n with
    | zero => rfl
    | succ n => rfl
  | cons e rest ih =>
    obtain ⟨hfirst, hrest⟩ := List.forall_mem_cons.1 h
    obtain ⟨m, rfl⟩ : ∃ m, n = m + 1 := ⟨n - 1, by omega⟩
    rw [upTo]
    rw [List.filterMap_cons] at hn
    by_cases hrefused : e.isRefused = true
    · have hnone := (isRefused_iff hfirst).1 hrefused
      rw [hnone] at hn
      rw [if_pos hrefused, ih hrest hn]
    · obtain ⟨o, ho⟩ : ∃ o, e.object? = some o :=
        Option.ne_none_iff_exists'.1 fun h => hrefused ((isRefused_iff hfirst).2 h)
      rw [ho, List.length_cons] at hn
      rw [if_neg hrefused, ih hrest (by omega)]

end Event

/-! ## All at once -/

namespace Select

theorem run_hydrate (s : Select ε) (row : Row) (d : Desk σ ε)
    (h : (s.event true row d.repository).1.MakesObject) :
    (s.hydrate row).run d = (.ok (s.event true row d.repository).1.object?,
      { d with
        repository := (s.event true row d.repository).2
        asked := d.asked ++ (s.event true row d.repository).1.tags s }) := by
  unfold hydrate
  rw [run_bind, Desk.run_load]
  rcases hload : d.repository.load row s.usingCache with ⟨res, repository⟩
  have hrecord : s.record true row d.repository = (res.map .object, repository) := by
    unfold record
    rw [hload]
    rfl
  cases res with
  | error e =>
    rw [event_of_error hrecord] at h
    exact (show False from h).elim
  | ok object =>
    rw [event_of_ok hrecord]
    show (Desk.passes (.object object) s.filters >>= _).run _ = _
    rw [run_bind, Desk.run_passes]
    cases ha : s.accepts (.object object) with
    | true =>
      have hall : (s.filters.all fun f => f.test (.object object)) = true := ha
      simp only [hall, if_true]
      rfl
    | false =>
      have hall : (s.filters.all fun f => f.test (.object object)) = false := ha
      simp only [hall]
      rfl

theorem run_hydrateAll (s : Select ε) (rows : List Row) (d : Desk σ ε)
    (h : ∀ e ∈ s.events true rows d.repository, e.MakesObject) :
    (s.hydrateAll rows).run d
      = (.ok ((s.events true rows d.repository).filterMap Event.object?), d.afterRows s rows) := by
  induction rows generalizing d with
  | nil =>
    unfold Desk.afterRows
    simp only [events, List.flatMap_nil, List.append_nil]
    rfl
  | cons row rest ih =>
    rcases hevent : s.event true row d.repository with ⟨event, repository⟩
    rw [events_cons hevent] at h ⊢
    obtain ⟨hfirst, hrest⟩ := List.forall_mem_cons.1 h
    have hrow := s.run_hydrate row d (by rw [hevent]; exact hfirst)
    rw [hevent] at hrow
    rw [hydrateAll, run_bind_ok hrow, run_bind_ok (ih _ hrest), List.filterMap_cons]
    unfold Desk.afterRows
    rw [events_cons hevent, afterRows_cons rest hevent, List.flatMap_cons, ← List.append_assoc]
    cases event.object? <;> rfl

end Select

/-! ## One query for both -/

/-- All rows of what a query hands out. -/
theorem Session.run_rows_of_statement {sql : String} {c c' : Channel σ} {st : Statement}
    {rows : List Row} (h : (statement sql).run c = (.ok st, c')) (hst : st.drain = (rows, none)) :
    (Session.rows sql).run c = (.ok rows, c') := by
  have hall : st.fetchAll = .ok rows := by
    unfold Statement.fetchAll
    rw [hst]
  unfold statement native at h
  unfold Session.rows native
  rcases hrun : connected.run c with ⟨res, c₁⟩
  cases res with
  | error e =>
    rw [run_bind_error hrun] at h
    cases h
  | ok u =>
    rw [run_bind_ok hrun, run_bind_ok (run_current c₁)] at h ⊢
    cases hconn : c₁.session.connection with
    | none =>
      simp only [hconn] at h
      cases h
    | some connection =>
      simp only [hconn] at h ⊢
      rw [run_lift] at h ⊢
      rw [run_bind]
      rcases hq : (connection.query sql).run c₁.world with ⟨res, w⟩
      rw [hq] at h
      cases res with
      | error f => cases h
      | ok st' =>
        cases h
        simp only [run_ofExcept, hall]

namespace Select

/-- A query for a statement has the text of the request. -/
theorem textWith_statement (s : Select ε) (idField : String) :
    s.textWith idField (fun o => { o with output := some .statement })
      = (Query.select s).text idField :=
  s.textWith_eq idField _ false fun _ _ => rfl

/-- The rows of a request are what its cursor is offered, from the same query. -/
theorem run_rows_of_offer (s : Select ε) {c : Channel σ} {rows : List Row}
    (h : Cursor.offer s c = (rows, none)) :
    s.rows.run c = (.ok rows, ((Cursor.query s).run c).2) := by
  have htext : (Operation.selectRows s).text c.session.idField
      = s.textWith c.session.idField (fun o => { o with output := some .statement }) := by
    rw [textWith_statement]
    exact s.textWith_eq _ (fun o => { o with output := some .rows }) false fun _ _ => rfl
  unfold Cursor.offer at h
  rw [run_rows, htext]
  rcases hq : (Cursor.query s).run c with ⟨res, c'⟩
  rw [hq] at h
  rw [Cursor.run_query, run_built_bind] at hq
  rw [run_built_bind]
  cases ht : s.textWith c.session.idField fun o => { o with output := some .statement } with
  | error cause =>
    rw [ht] at hq
    cases hq
    cases h
  | ok sql =>
    rw [ht] at hq
    cases res with
    | error e => cases h
    | ok st =>
      obtain ⟨hrows, hfailure⟩ := Prod.mk.inj
        (show (st.drain.1, st.drain.2.map fun f => SqlError.ofFailure f _) = (rows, none) from h)
      have hst : st.drain = (rows, none) := Prod.ext hrows (Option.map_eq_none_iff.1 hfailure)
      exact Session.run_rows_of_statement hq hst

/-- A query that hands out its rows was sent, as one statement. -/
theorem statements_of_offer (s : Select ε) {session : Session σ} {c : Channel (Recorded σ)}
    {rows : List Row} (hc : c.session = session.recorded)
    (h : Cursor.offer s c = (rows, none)) :
    ∃ sql, (s.sql.run c).1 = .ok sql ∧
      ((Cursor.query s).run c).2.world.statements = c.world.statements ++ [sql] := by
  obtain ⟨recorded, r⟩ := c
  obtain rfl : recorded = session.recorded := hc
  have hsql := (Query.select s).run_sql (⟨session.recorded, r⟩ : Channel (Recorded σ))
  unfold Cursor.offer at h
  rw [Cursor.run_query, textWith_statement, run_built_bind] at h ⊢
  cases htext : (Query.select s).text (session.recorded).idField with
  | error cause =>
    simp only [htext] at h
    cases h
  | ok sql =>
    simp only [htext] at h hsql ⊢
    refine ⟨sql, congrArg Prod.fst hsql, ?_⟩
    have hsent := Session.sent_statement session r sql
    rcases hrun : (Session.statement sql).run ⟨session.recorded, r⟩ with ⟨res, c'⟩
    rw [hrun] at h hsent
    cases hsent with
    | answered connection r₁ w st hattains hanswer =>
      show r₁.statements ++ [sql] = _
      rw [hattains.statements]
    | refused f w hf => cases h
    | failed connection r₁ w f hattains hf => cases h

theorem length_events (s : Select ε) (hydrate : Bool) (rows : List Row) (r : Repository ε) :
    (s.events hydrate rows r).length = rows.length := by
  induction rows generalizing r with
  | nil => rfl
  | cons row rest ih =>
    rcases hevent : s.event hydrate row r with ⟨event, r'⟩
    rw [events_cons hevent, List.length_cons, List.length_cons, ih r']

/-- The objects of rows that make some, and the desk then. -/
theorem run_objects (s : Select ε) {d : Desk σ ε} {rows : List Row}
    (hoffer : Cursor.offer s d.channel = (rows, none))
    (h : ∀ e ∈ s.events true rows d.repository, e.MakesObject) :
    s.objects.run d = (.ok ((s.events true rows d.repository).filterMap Event.object?),
      Desk.afterRows { d with channel := ((Cursor.query s).run d.channel).2 } s rows) := by
  have hrows : (Desk.onSession s.rows).run d
      = (.ok rows, { d with channel := ((Cursor.query s).run d.channel).2 }) := by
    rw [Desk.run_onSession, s.run_rows_of_offer hoffer]
  unfold objects
  rw [run_bind_ok hrows]
  exact s.run_hydrateAll rows { d with channel := ((Cursor.query s).run d.channel).2 } h

end Select

/-! ## Both -/

namespace Cursor

/-- A query that has rows to offer, and no failure, was started. -/
theorem startsCalmly_of_offer {s : Select ε} {c : Channel σ} {rows : List Row}
    (h : offer s c = (rows, none)) : StartsCalmly s c := by
  intro e c' hrun
  rw [offer, hrun] at h
  cases h

/-- **All at once or one by one.**  When the query hands out all its rows and each makes an object,
the objects are what the cursor yields, each the same object under the same number, and then
nothing; for both the text of the request is the one statement sent.  With one call more than there
are objects the desks are the same: the session and its world, the repository with all it
remembers, rows that the filters refuse included, and the filters asked. -/
theorem nexts_eq_objects (s : Select ε) {session : Session σ} {d : Desk (Recorded σ) ε}
    {rows : List Row} (hd : d.channel.session = session.recorded)
    (hydrating : isHydrating s.options.output = true)
    (hoffer : offer s d.channel = (rows, none))
    (hrows : ∀ row ∈ rows, ∃ value, d.repository.ofRow row = .ok value) :
    ∃ sql objects d', (s.sql.run d.channel).1 = .ok sql ∧
      s.objects.run d = (.ok objects, d') ∧
      d'.channel.world.statements = d.channel.world.statements ++ [sql] ∧
      ∀ n, (nexts n ⟨s.cursor, d⟩).1 = (List.range n).map (resultAt (numbered 0 objects)) ∧
        (objects.length < n → (nexts n ⟨s.cursor, d⟩).2.desk = d' ∧
          (nexts n ⟨s.cursor, d⟩).2.cursor.state = .exhausted) := by
  have hevents : ∀ e ∈ s.events true rows d.repository, e.MakesObject := s.makesObject_of_mem hrows
  have hobjects := s.run_objects (d := d) hoffer hevents
  obtain ⟨sql, hsql, hsent⟩ := s.statements_of_offer hd hoffer
  refine ⟨sql, _, _, hsql, hobjects, hsent, ?_⟩
  intro n
  have H := harvest_unstarted s d n (startsCalmly_of_offer hoffer)
  rw [hydrating, hoffer] at H
  have hyields : yields s true rows none d.repository 0
      = numbered 0 ((s.events true rows d.repository).filterMap Event.object?) := by
    unfold yields
    rw [Event.items_eq_numbered 0 hevents]
    exact List.append_nil _
  refine ⟨?_, ?_⟩
  · rw [← hyields]
    exact H.yielded
  · intro hn
    have hall : Event.upTo n (s.events true rows d.repository) = s.events true rows d.repository :=
      Event.upTo_of_lt hevents hn
    have hlength : (numbered 0 ((s.events true rows d.repository).filterMap Event.object?)).length
        < n := by
      unfold numbered
      rw [List.length_map, List.length_zipIdx]
      exact hn
    refine ⟨?_, H.exhausted (.inl (by rw [← hyields] at hlength; exact hlength))⟩
    have hchannel := H.channel
    have hrepository := H.repository
    have hasked := H.asked
    rw [if_neg (by omega)] at hchannel
    rw [hall, Select.length_events, List.take_length] at hrepository
    rw [hall] at hasked
    rcases hdesk : (nexts n ⟨s.cursor, d⟩).2.desk with ⟨channel', repository', asked'⟩
    rw [hdesk] at hchannel hrepository hasked
    unfold Desk.afterRows
    rw [show channel' = _ from hchannel, show repository' = _ from hrepository,
      show asked' = _ from hasked]

/-- Two rows with one id are one object, and the row between them is refused. -/
theorem nexts_eq_objects_shared :
    let ann : Row := ⟨[("id", .text "1"), ("name", .text "ann")]⟩
    let rows : List Row :=
      [ann, ⟨[("id", .text "2")]⟩, ⟨[("id", .text "1"), ("name", .text "bob")]⟩]
    let wide : Filter Row := ⟨"wide", fun record => match record with
      | .object o => o.value.size == 2
      | .row _ => false⟩
    let s : Select Row :=
      { dialect := .mysql, idField := "id", options := { table := some "t" }, filters := [wide] }
    let session : Session ScriptLog :=
      { name := "a", config := {}, connector := Script.connector { rules := [("", .rows rows)] } }
    let d : Desk (Recorded ScriptLog) Row :=
      ⟨⟨session.recorded, { world := {} }⟩, { ofRow := .ok, table := "t" }, []⟩
    offer s d.channel = (rows, none) ∧ (s.objects.run d).1 = .ok [⟨0, ann⟩, ⟨0, ann⟩] ∧
      (nexts 3 ⟨s.cursor, d⟩).1
        = [.ok (some (0, .object ⟨0, ann⟩)), .ok (some (1, .object ⟨0, ann⟩)), .ok none] ∧
      (nexts 3 ⟨s.cursor, d⟩).2.desk = (s.objects.run d).2 := by
  intro ann rows wide s session d
  have htext : (Query.select s).text d.channel.session.idField
      = .ok "SELECT \x60t\x60.* FROM \x60t\x60" := rfl
  have hoffer : offer s d.channel = (rows, none) := by
    unfold offer
    rw [run_query, Select.textWith_statement, run_built_bind, htext]
    rfl
  have hrows : ∀ row ∈ rows, ∃ value, d.repository.ofRow row = .ok value := by
    intro row _
    exact ⟨row, rfl⟩
  have hobjects : (s.objects.run d).1 = .ok [⟨0, ann⟩, ⟨0, ann⟩] := by
    rw [s.run_objects hoffer (s.makesObject_of_mem hrows)]
    rfl
  have hd : d.channel.session = session.recorded := rfl
  obtain ⟨sql, objects, d', -, hrun, -, hnexts⟩ := nexts_eq_objects s hd rfl hoffer hrows
  obtain ⟨hyielded, hend⟩ := hnexts 3
  have hlist : objects = [⟨0, ann⟩, ⟨0, ann⟩] :=
    Except.ok.inj ((congrArg Prod.fst hrun).symm.trans hobjects)
  subst hlist
  obtain ⟨hdesk, -⟩ := hend (Nat.lt_succ_self 2)
  refine ⟨hoffer, hobjects, hyielded, ?_⟩
  rw [hrun]
  exact hdesk

end Cursor

end SqlGateway
