import SqlGateway.Proofs.Statement.Fetch

/-!
# The life of a statement

Any sequence of calls on a new statement, whose source may fail or end at any
item and have more to say after that.  What is to come is told by the supply and
the number of calls alone.

    handed out = the first rows of the supply, one a call
    asked for  = the same items, and at most one that is no row
-/

namespace SqlGateway

/-! ## Algorithm -/

/-- What a caller may do with a statement. -/
inductive StatementCall where
  | fetch
  | fetchColumn
  | next
  | close

/-- What a call hands over. -/
inductive StatementReply where
  | row (result : Except DriverFailure (Option Row))
  | column (result : Except DriverFailure (Option Value))
  | item (result : Option (Except DriverFailure Row))
  | closed

namespace StatementCall

def perform (s : Statement) : StatementCall → StatementReply × Statement
  | .fetch => (.row s.fetch.1, s.fetch.2)
  | .fetchColumn => (.column s.fetchColumn.1, s.fetchColumn.2)
  | .next => (.item s.next.1, s.next.2)
  | .close => (.closed, s.close)

/-- All calls but `close` read a row. -/
def reads : StatementCall → Bool
  | .close => false
  | _ => true

/-- What a call shows of what it has read. -/
def shows (read : Except DriverFailure (Option Row)) : StatementCall → StatementReply
  | .fetch => .row read
  | .fetchColumn => .column (read.map fun row => row.bind (·.index? 0))
  | .next => .item <| match read with
    | .ok row => row.map .ok
    | .error f => some (.error f)
  | .close => .closed

/-- The row that a call hands out. -/
def row? (call : StatementCall) (s : Statement) : Option Row :=
  match call.reads, s.fetch.1 with
  | true, .ok row => row
  | _, _ => none

/-- The failure that a call reports. -/
def failure? (call : StatementCall) (s : Statement) : Option DriverFailure :=
  match call.reads, s.fetch.1 with
  | true, .error f => some f
  | _, _ => none

/-- What the source is asked for by a call. -/
def answer? (call : StatementCall) (s : Statement) : Option StreamItem :=
  if call.reads then s.answer? else none

def reply? (call : StatementCall) (s : Statement) : Option StatementReply :=
  some (call.perform s).1

/-- How many calls read before the first `close`. -/
def readings (calls : List StatementCall) : Nat :=
  (calls.takeWhile reads).length

end StatementCall

namespace Statement

/-- Where the calls lead to. -/
def reached : List StatementCall → Statement → Statement
  | [], s => s
  | call :: calls, s => reached calls (call.perform s).2

/-- What is seen at the calls, one after the other. -/
def observed {α : Type} (look : StatementCall → Statement → Option α) :
    List StatementCall → Statement → List α
  | [], _ => []
  | call :: calls, s => (look call s).toList ++ observed look calls (call.perform s).2

end Statement

namespace Supply

/-- What is to come after the calls: the rows that are left, and the failure behind them. -/
def toCome (supply : Supply) (calls : List StatementCall) : List Row × Option DriverFailure :=
  if calls.all StatementCall.reads ∧ calls.length ≤ supply.rows.length then
    (supply.rows.drop calls.length, supply.failure?)
  else ([], none)

/-- What the next reading comes to. -/
def due (supply : Supply) (calls : List StatementCall) : Except DriverFailure (Option Row) :=
  match supply.toCome calls with
  | (row :: _, _) => .ok (some row)
  | ([], some f) => .error f
  | ([], none) => .ok none

/-- A call that closes the statement, or to which no row was due. -/
def Ends (supply : Supply) (earlier : List StatementCall) (call : StatementCall) : Prop :=
  call = .close ∨ ∀ row, supply.due earlier ≠ .ok (some row)

/-- What the calls came to on a new statement over the supply, which is `s` after them. -/
structure Streams (supply : Supply) (calls : List StatementCall) (s : Statement) : Prop where
  handed : Statement.observed StatementCall.row? calls { supply }
    = supply.rows.take (StatementCall.readings calls)
  /-- The failure comes once, at the reading behind the last row. -/
  reported : Statement.observed StatementCall.failure? calls { supply }
    = supply.failure?.toList.take (StatementCall.readings calls - supply.rows.length)
  asked : Statement.observed StatementCall.answer? calls { supply }
    = supply.answers.take (StatementCall.readings calls)
  fetched : s.fetched = (Statement.observed StatementCall.row? calls { supply }).length
  remaining : s.remaining = match supply with
    | .buffered _ => (supply.toCome calls).1.length
    | .streaming _ => 0
  replies : ∀ call : StatementCall, (call.perform s).1 = call.shows (supply.due calls)
  /-- After an end, a failure or `close` there is nothing, and the source is not asked for it. -/
  ended : ∀ earlier call later, calls = earlier ++ call :: later → supply.Ends earlier call →
    ∀ c : StatementCall, (c.perform s).1 = c.shows (.ok none) ∧ c.answer? s = none
  closing : s.close.fetched = s.fetched
  fetchAll : s.fetchAll = match supply.toCome calls with
    | (rows, none) => .ok rows
    | (_, some f) => .error f
  /-- What a source says beyond the calls is not seen: its items may be the beginning of an endless
  sequence. -/
  beyond : ∀ items more, supply = .streaming items → calls.length ≤ items.length →
    Statement.observed StatementCall.reply? calls { supply := .streaming (items ++ more) }
      = Statement.observed StatementCall.reply? calls { supply }

end Supply

/-! ## One call -/

namespace StatementCall

theorem eq_close {call : StatementCall} (h : call.reads = false) : call = .close := by
  cases call with
  | close => rfl
  | _ => cases h

/-- Every reading moves the statement on by one fetch, and shows what that gives. -/
theorem perform_reading (s : Statement) {call : StatementCall} (h : call.reads = true) :
    call.perform s = (call.shows s.fetch.1, s.fetch.2) := by
  cases call with
  | fetch => rfl
  | fetchColumn => rfl
  | next =>
    unfold perform Statement.next
    rcases s.fetch with ⟨result, s'⟩
    rcases result with f | _ | row <;> rfl
  | close => cases h

theorem readings_cons (call : StatementCall) (calls : List StatementCall) :
    readings (call :: calls) = if call.reads then readings calls + 1 else 0 := by
  unfold readings
  rw [List.takeWhile_cons]
  split <;> rfl

end StatementCall

namespace Statement

open StatementCall (readings)

theorem reached_append (xs ys : List StatementCall) (s : Statement) :
    s.reached (xs ++ ys) = (s.reached xs).reached ys := by
  induction xs generalizing s with
  | nil => rfl
  | cons call xs ih => exact ih _

/-! ## All calls -/

theorem observed_row? (calls : List StatementCall) (s : Statement) :
    observed StatementCall.row? calls s = s.supply.rows.take (readings calls) := by
  induction calls generalizing s with
  | nil => rfl
  | cons call calls ih =>
    rw [observed, ih, StatementCall.readings_cons]
    cases hreads : call.reads with
    | false =>
      cases StatementCall.eq_close hreads
      exact List.take_nil
    | true =>
      rw [StatementCall.perform_reading s hreads]
      unfold StatementCall.row?
      rw [hreads]
      have hfetch := s.fetches_fetch
      generalize s.fetch = res at hfetch
      cases hfetch with
      | row r s' hrows => rw [hrows]; rfl
      | failed f hrows => rw [hrows]; exact List.take_nil
      | ended hrows => rw [hrows]; exact List.take_nil

theorem observed_failure? (calls : List StatementCall) (s : Statement) :
    observed StatementCall.failure? calls s
      = s.supply.failure?.toList.take (readings calls - s.supply.rows.length) := by
  induction calls generalizing s with
  | nil => rw [show readings [] = 0 from rfl, Nat.zero_sub]; rfl
  | cons call calls ih =>
    rw [observed, ih, StatementCall.readings_cons]
    cases hreads : call.reads with
    | false =>
      cases StatementCall.eq_close hreads
      rw [if_neg Bool.false_ne_true, Nat.zero_sub]
      exact List.take_nil
    | true =>
      rw [StatementCall.perform_reading s hreads]
      unfold StatementCall.failure?
      rw [hreads]
      have hfetch := s.fetches_fetch
      generalize s.fetch = res at hfetch
      cases hfetch with
      | row r s' hrows hfailure =>
        rw [hrows, hfailure, if_pos rfl, List.length_cons, Nat.add_sub_add_right]
        rfl
      | failed f hrows hfailure =>
        rw [hrows, hfailure, if_pos rfl, List.length_nil, Nat.sub_zero]
        exact congrArg (f :: ·) (List.take_nil.trans List.take_nil.symm)
      | ended hrows hfailure =>
        rw [hfailure]
        exact List.take_nil.trans List.take_nil.symm

theorem observed_answer? (calls : List StatementCall) (s : Statement) :
    observed StatementCall.answer? calls s = s.supply.answers.take (readings calls) := by
  induction calls generalizing s with
  | nil => rfl
  | cons call calls ih =>
    rw [observed, ih, StatementCall.readings_cons]
    cases hreads : call.reads with
    | false =>
      cases StatementCall.eq_close hreads
      exact List.take_nil
    | true =>
      have hanswer : StatementCall.answer? call s = s.answer? := if_pos hreads
      rw [StatementCall.perform_reading s hreads, hanswer, if_pos rfl]
      have hfetch := s.fetches_fetch
      generalize s.fetch = res at hfetch
      cases hfetch with
      | row r s' _ _ hanswers =>
        rw [hanswers]
        cases hsource : s.answer? with
        | none =>
          have hnone : s'.supply.answers = [] := by
            rwa [answers_eq_nil hsource, hsource, eq_comm] at hanswers
          rw [hnone]
          exact List.take_nil.trans List.take_nil.symm
        | some item => rfl
      | failed f _ _ hanswers =>
        rw [hanswers]
        cases s.answer? with
        | none => exact List.take_nil.trans List.take_nil.symm
        | some item => exact congrArg (item :: ·) (List.take_nil.trans List.take_nil.symm)
      | ended _ _ hanswers =>
        rw [hanswers]
        cases s.answer? with
        | none => exact List.take_nil.trans List.take_nil.symm
        | some item => exact congrArg (item :: ·) (List.take_nil.trans List.take_nil.symm)

theorem fetched_reached (calls : List StatementCall) (s : Statement) :
    (s.reached calls).fetched
      = s.fetched + (observed StatementCall.row? calls s).length := by
  induction calls generalizing s with
  | nil => rfl
  | cons call calls ih =>
    rw [reached, ih, observed, List.length_append, ← Nat.add_assoc]
    congr 1
    cases hreads : call.reads with
    | false =>
      cases StatementCall.eq_close hreads
      rfl
    | true =>
      rw [StatementCall.perform_reading s hreads]
      unfold StatementCall.row?
      rw [hreads]
      have hfetch := s.fetches_fetch
      generalize s.fetch = res at hfetch
      cases hfetch with
      | row r s' _ _ _ _ _ hfetched => exact hfetched
      | failed f => rfl
      | ended => rfl

/-! ## After the calls -/

theorem toCome_nil (supply : Supply) : supply.toCome [] = (supply.rows, supply.failure?) := by
  unfold Supply.toCome
  rw [if_pos ⟨rfl, Nat.zero_le _⟩]
  rfl

theorem toCome_of_empty {supply : Supply} (hrows : supply.rows = [])
    (hfailure : supply.failure? = none) (calls : List StatementCall) :
    supply.toCome calls = ([], none) := by
  unfold Supply.toCome
  rw [hrows, hfailure, List.drop_nil, ite_self]

/-- What is left after the calls is what is to come. -/
theorem drain_reached (calls : List StatementCall) (s : Statement) :
    (s.reached calls).drain = s.supply.toCome calls := by
  induction calls generalizing s with
  | nil => rw [toCome_nil]; exact s.drain_eq
  | cons call calls ih =>
    rw [reached, ih]
    cases hreads : call.reads with
    | false =>
      cases StatementCall.eq_close hreads
      exact (toCome_of_empty rfl rfl calls).trans (if_neg (by simp [StatementCall.reads])).symm
    | true =>
      rw [StatementCall.perform_reading s hreads]
      have hfetch := s.fetches_fetch
      generalize s.fetch = res at hfetch
      cases hfetch with
      | row r s' hrows hfailure =>
        unfold Supply.toCome
        rw [hrows, hfailure]
        simp only [List.all_cons, hreads, Bool.true_and, List.length_cons,
          Nat.add_le_add_iff_right, List.drop_succ_cons]
      | failed f hrows =>
        refine (toCome_of_empty rfl rfl calls).trans (if_neg ?_).symm
        simp [hrows]
      | ended hrows =>
        refine (toCome_of_empty rfl rfl calls).trans (if_neg ?_).symm
        simp [hrows]

theorem fetch_reached (calls : List StatementCall) (s : Statement) :
    (s.reached calls).fetch.1 = s.supply.due calls := by
  unfold Supply.due
  rw [← drain_reached]
  rcases hdrain : (s.reached calls).drain with ⟨rows, failure⟩
  cases rows with
  | nil =>
    rw [fetch_of_drain_nil hdrain]
    cases failure <;> rfl
  | cons row rest =>
    obtain ⟨s', hfetch, -⟩ := fetch_of_drain_cons hdrain
    rw [hfetch]

theorem fst_perform (call : StatementCall) (s : Statement) :
    (call.perform s).1 = call.shows s.fetch.1 := by
  cases hreads : call.reads with
  | false =>
    cases StatementCall.eq_close hreads
    rfl
  | true => rw [StatementCall.perform_reading s hreads]

/-- A statement without a source gets none. -/
theorem isStreaming_reached (calls : List StatementCall) {s : Statement}
    (h : s.isStreaming = false) : (s.reached calls).isStreaming = false := by
  induction calls generalizing s with
  | nil => exact h
  | cons call calls ih =>
    apply ih
    cases hreads : call.reads with
    | false =>
      cases StatementCall.eq_close hreads
      rfl
    | true =>
      rw [StatementCall.perform_reading s hreads]
      have hfetch := s.fetches_fetch
      generalize s.fetch = res at hfetch
      cases hfetch with
      | row r s' _ _ _ hstreaming => exact hstreaming.trans h
      | failed f => rfl
      | ended => rfl

/-- A source holds no rows back, neither while it is there nor after it was let go. -/
theorem remaining_reached_streaming (calls : List StatementCall) {s : Statement}
    (h : s.isStreaming = true ∨ s.supply.rows = []) : (s.reached calls).remaining = 0 := by
  induction calls generalizing s with
  | nil =>
    show s.remaining = 0
    rw [remaining_eq]
    rcases h with h | h
    · rw [if_pos h]
    · rw [h, List.length_nil, ite_self]
  | cons call calls ih =>
    apply ih
    cases hreads : call.reads with
    | false =>
      cases StatementCall.eq_close hreads
      exact .inr rfl
    | true =>
      rw [StatementCall.perform_reading s hreads]
      have hfetch := s.fetches_fetch
      generalize s.fetch = res at hfetch
      cases hfetch with
      | row r s' hrows _ _ hstreaming =>
        rcases h with h | h
        · exact .inl (hstreaming.trans h)
        · cases hrows.symm.trans h
      | failed f => exact .inr rfl
      | ended => exact .inr rfl

/-! ## After the end -/

theorem snd_perform_of_ends {s : Statement} {call : StatementCall}
    (h : call = .close ∨ ∀ row, s.fetch.1 ≠ .ok (some row)) : (call.perform s).2 = s.close := by
  cases hreads : call.reads with
  | false =>
    cases StatementCall.eq_close hreads
    rfl
  | true =>
    rcases h with rfl | h
    · cases hreads
    · rw [StatementCall.perform_reading s hreads]
      have hfetch := s.fetches_fetch
      generalize s.fetch = res at hfetch h
      cases hfetch with
      | row r => exact absurd rfl (h r)
      | failed f => rfl
      | ended => rfl

theorem reached_close (calls : List StatementCall) (s : Statement) :
    s.close.reached calls = s.close := by
  induction calls with
  | nil => rfl
  | cons call calls ih =>
    rw [reached, snd_perform_of_ends]
    · exact ih
    · refine .inr fun row hrow => ?_
      rw [fetch_close] at hrow
      cases hrow

theorem reached_of_ends {supply : Supply} {earlier later : List StatementCall}
    {call : StatementCall} (h : supply.Ends earlier call) :
    reached (earlier ++ call :: later) { supply } = (reached earlier { supply }).close := by
  rw [reached_append, reached, snd_perform_of_ends, reached_close]
  refine h.imp_right fun hnone => ?_
  rwa [fetch_reached]

theorem replies_append (calls : List StatementCall) (items more : List StreamItem) (fetched : Nat)
    (h : calls.length ≤ items.length) :
    observed StatementCall.reply? calls ⟨.streaming (items ++ more), fetched⟩
      = observed StatementCall.reply? calls ⟨.streaming items, fetched⟩ := by
  induction calls generalizing items fetched with
  | nil => rfl
  | cons call calls ih =>
    cases items with
    | nil => cases h
    | cons item items =>
      rw [observed, observed]
      cases hreads : call.reads with
      | false =>
        cases StatementCall.eq_close hreads
        rfl
      | true =>
        unfold StatementCall.reply?
        rw [StatementCall.perform_reading _ hreads, StatementCall.perform_reading _ hreads]
        cases item with
        | row r =>
          exact congrArg (call.shows (.ok (some r)) :: ·)
            (ih items (fetched + 1) (Nat.le_of_succ_le_succ h))
        | failure f => rfl
        | finish => rfl

end Statement

/-- **The life of a statement.**  Any calls on a new one hand out the rows of its supply from first
to last, once, up to the first failure or end; what every call shows, what the source was asked and
what is left are told by the supply and the calls. -/
theorem Statement.reached_streams (supply : Supply) (calls : List StatementCall) :
    supply.Streams calls (reached calls { supply }) where
  handed := observed_row? calls { supply }
  reported := observed_failure? calls { supply }
  asked := observed_answer? calls { supply }
  fetched := by rw [fetched_reached, Nat.zero_add]
  remaining := by
    cases supply with
    | buffered rows =>
      have hbuffered := isStreaming_reached calls (s := { supply := .buffered rows }) rfl
      rw [remaining_eq, hbuffered, if_neg Bool.false_ne_true]
      have hdrain := drain_reached calls { supply := .buffered rows }
      rw [drain_eq] at hdrain
      rw [← hdrain]
    | streaming items => exact remaining_reached_streaming calls (.inl rfl)
  replies call := by rw [fst_perform, fetch_reached]
  ended earlier call later hcalls hends c := by
    rw [hcalls, reached_of_ends hends, fst_perform, fetch_close]
    exact ⟨rfl, ite_self none⟩
  closing := rfl
  fetchAll := by
    have hdrain := drain_reached calls { supply }
    rcases htoCome : supply.toCome calls with ⟨rows, _ | f⟩
    · simp only [Statement.fetchAll, hdrain, htoCome]
    · simp only [Statement.fetchAll, hdrain, htoCome]
  beyond items more hsupply hcalls := by
    rw [hsupply]
    exact replies_append calls items more 0 hcalls

end SqlGateway
