import SqlGateway.Statement

/-!
# One fetch of a statement

What a supply has to give: the rows up to the first failure or end, and the
failure, if it is one.  A fetch takes the first row, or comes upon what is
behind the rows and lets the supply go.

    rows s = r :: rows s'   when fetch s = (r, s')
    rows s = []             when fetch s gives no row
-/

namespace SqlGateway

/-! ## Algorithm -/

namespace StreamItem

def row? : StreamItem → Option Row
  | .row r => some r
  | _ => none

def failure? : StreamItem → Option DriverFailure
  | .failure f => some f
  | _ => none

def isRow (item : StreamItem) : Bool :=
  item.row?.isSome

end StreamItem

namespace Supply

/-- The rows up to the first failure or end. -/
def rows : Supply → List Row
  | .buffered rows => rows
  | .streaming items => (items.takeWhile StreamItem.isRow).filterMap StreamItem.row?

/-- The failure behind them, if it is not an end. -/
def failure? : Supply → Option DriverFailure
  | .buffered _ => none
  | .streaming items => (items.dropWhile StreamItem.isRow).head?.bind StreamItem.failure?

/-- All that a source is asked for: the rows, and the first that is none. -/
def answers : Supply → List StreamItem
  | .buffered _ => []
  | .streaming items =>
    items.takeWhile StreamItem.isRow ++ [(items.dropWhile StreamItem.isRow).headD .finish]

end Supply

namespace Statement

/-- What the source answers when it is asked for a row; without a source nothing is asked. -/
def answer? (s : Statement) : Option StreamItem :=
  match s.supply with
  | .buffered _ => none
  | .streaming items => some (items.headD .finish)

/-- How many items the supply still has. -/
def left (s : Statement) : Nat :=
  match s.supply with
  | .buffered rows => rows.length
  | .streaming items => items.length

/-- Everything that a fetch can come to. -/
inductive Fetches (s : Statement) : Except DriverFailure (Option Row) × Statement → Prop where
  | row (r : Row) (s' : Statement) (rows : s.supply.rows = r :: s'.supply.rows)
      (failure : s.supply.failure? = s'.supply.failure?)
      (answers : s.supply.answers = s.answer?.toList ++ s'.supply.answers)
      (streaming : s'.isStreaming = s.isStreaming) (left : s.left = s'.left + 1)
      (fetched : s'.fetched = s.fetched + 1) : Fetches s (.ok (some r), s')
  | failed (f : DriverFailure) (rows : s.supply.rows = []) (failure : s.supply.failure? = some f)
      (answers : s.supply.answers = s.answer?.toList) : Fetches s (.error f, s.close)
  | ended (rows : s.supply.rows = []) (failure : s.supply.failure? = none)
      (answers : s.supply.answers = s.answer?.toList) : Fetches s (.ok none, s.close)

/-! ## Lemmas -/

theorem fetches_fetch (s : Statement) : s.Fetches s.fetch := by
  obtain ⟨supply, fetched⟩ := s
  cases supply with
  | buffered rows =>
    cases rows with
    | nil => exact .ended rfl rfl rfl
    | cons r rest => exact .row r ⟨.buffered rest, fetched + 1⟩ rfl rfl rfl rfl rfl rfl
  | streaming items =>
    cases items with
    | nil => exact .ended rfl rfl rfl
    | cons item items =>
      cases item with
      | row r => exact .row r ⟨.streaming items, fetched + 1⟩ rfl rfl rfl rfl rfl rfl
      | failure f => exact .failed f rfl rfl rfl
      | finish => exact .ended rfl rfl rfl

theorem remaining_eq (s : Statement) :
    s.remaining = if s.isStreaming then 0 else s.supply.rows.length := by
  obtain ⟨supply, fetched⟩ := s
  cases supply <;> rfl

/-- A statement that asks for nothing has no source. -/
theorem answers_eq_nil {s : Statement} (h : s.answer? = none) : s.supply.answers = [] := by
  unfold answer? at h
  split at h
  · next hs =>
    rw [hs]
    rfl
  · cases h

theorem drainItems_eq (items : List StreamItem) :
    drainItems items = ((Supply.streaming items).rows, (Supply.streaming items).failure?) := by
  induction items with
  | nil => rfl
  | cons item items ih =>
    cases item with
    | row r =>
      unfold drainItems
      rw [ih]
      rfl
    | failure f => rfl
    | finish => rfl

/-- What is left, in one go, is the rows and the failure behind them. -/
theorem drain_eq (s : Statement) : s.drain = (s.supply.rows, s.supply.failure?) := by
  obtain ⟨supply, fetched⟩ := s
  cases supply with
  | buffered rows => rfl
  | streaming items => exact drainItems_eq items

theorem fetch_of_drain_cons {s : Statement} {row : Row} {rest : List Row}
    {failure : Option DriverFailure} (h : s.drain = (row :: rest, failure)) :
    ∃ s' : Statement, s.fetch = (.ok (some row), s') ∧ s'.drain = (rest, failure) ∧
      s.left = s'.left + 1 := by
  rw [drain_eq, Prod.mk.injEq] at h
  have hfetch := s.fetches_fetch
  generalize s.fetch = res at hfetch
  cases hfetch with
  | row r s' hrows hfailure _ _ hleft _ =>
    rw [hrows, hfailure] at h
    obtain ⟨hcons, rfl⟩ := h
    cases hcons
    exact ⟨s', rfl, s'.drain_eq, hleft⟩
  | failed f hrows => cases hrows.symm.trans h.1
  | ended hrows => cases hrows.symm.trans h.1

theorem fetch_of_drain_nil {s : Statement} {failure : Option DriverFailure}
    (h : s.drain = ([], failure)) :
    s.fetch.1 = match failure with
      | some f => .error f
      | none => .ok none := by
  rw [drain_eq, Prod.mk.injEq] at h
  have hfetch := s.fetches_fetch
  generalize s.fetch = res at hfetch
  cases hfetch with
  | row r s' hrows => cases hrows.symm.trans h.1
  | failed f _ hfailure =>
    cases hfailure.symm.trans h.2
    rfl
  | ended _ hfailure =>
    cases hfailure.symm.trans h.2
    rfl

end Statement

end SqlGateway
