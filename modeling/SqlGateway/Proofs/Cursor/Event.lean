import SqlGateway.Request.Cursor

/-!
# Events of a cursor

What the rows of a select come to, one event a row: the row makes no record,
or the filters refuse the record, or they accept it.  Refusals leave no trace
among the items, and accepted records have numbers without a gap.

    items = the failures and the accepted records, these numbered from 0 on
-/

namespace SqlGateway

variable {ε : Type}

/-- What one row comes to. -/
inductive Event (ε : Type) where
  | failed (e : SqlError)
  | refused (record : Record ε)
  | accepted (record : Record ε)

/-- What `next` yields when it yields something: a failure or a numbered record. -/
abbrev Item (ε : Type) : Type :=
  Except SqlError (Nat × Record ε)

/-! ## Algorithm -/

namespace Select

/-- The record of a row, and the repository then. -/
def record (s : Select ε) (hydrate : Bool) (row : Row) (repository : Repository ε) :
    Except SqlError (Record ε) × Repository ε :=
  if hydrate then
    let (object, repository) := repository.load row s.usingCache
    (object.map .object, repository)
  else (.ok (.row row), repository)

def accepts (s : Select ε) (record : Record ε) : Bool :=
  s.filters.all fun f => f.test record

/-- Tags of the filters asked of a record: up to the first that refuses. -/
def tagsFor (s : Select ε) (record : Record ε) : List String :=
  (s.filters.takeWhile (fun f => f.test record)
    ++ (s.filters.dropWhile fun f => f.test record).take 1).map (·.tag)

def event (s : Select ε) (hydrate : Bool) (row : Row) (repository : Repository ε) :
    Event ε × Repository ε :=
  match s.record hydrate row repository with
  | (.error e, repository) => (.failed e, repository)
  | (.ok record, repository) =>
    (if s.accepts record then .accepted record else .refused record, repository)

/-- The events of rows that are read one after the other. -/
def events (s : Select ε) (hydrate : Bool) : List Row → Repository ε → List (Event ε)
  | [], _ => []
  | row :: rest, repository =>
    let (event, repository) := s.event hydrate row repository
    event :: s.events hydrate rest repository

/-- The repository after the rows. -/
def afterRows (s : Select ε) (hydrate : Bool) : List Row → Repository ε → Repository ε
  | [], repository => repository
  | row :: rest, repository => s.afterRows hydrate rest (s.event hydrate row repository).2

end Select

namespace Event

def isRefused : Event ε → Bool
  | .refused _ => true
  | _ => false

def isAccepted : Event ε → Bool
  | .accepted _ => true
  | _ => false

/-- Tags of the filters asked at an event. -/
def tags (s : Select ε) : Event ε → List String
  | .failed _ => []
  | .refused record | .accepted record => s.tagsFor record

/-- What the events yield when the next number is `i`. -/
def items (i : Nat) : List (Event ε) → List (Item ε)
  | [] => []
  | .failed e :: rest => .error e :: items i rest
  | .refused _ :: rest => items i rest
  | .accepted record :: rest => .ok (i, record) :: items (i + 1) rest

/-- The events up to the `n`th that is not a refusal; all of them, if there are fewer. -/
def upTo : Nat → List (Event ε) → List (Event ε)
  | 0, _ => []
  | _, [] => []
  | n + 1, event :: rest => event :: upTo (if event.isRefused then n + 1 else n) rest

end Event

/-- The number of the record that an item is. -/
def Item.number? : Item ε → Option Nat
  | .ok (i, _) => some i
  | .error _ => none

/-! ## Lemmas -/

theorem Select.event_of_error {s : Select ε} {hydrate : Bool} {row : Row} {r r' : Repository ε}
    {e : SqlError} (h : s.record hydrate row r = (.error e, r')) :
    s.event hydrate row r = (.failed e, r') := by
  unfold event
  rw [h]

theorem Select.event_of_ok {s : Select ε} {hydrate : Bool} {row : Row} {r r' : Repository ε}
    {record : Record ε} (h : s.record hydrate row r = (.ok record, r')) :
    s.event hydrate row r
      = (if s.accepts record then .accepted record else .refused record, r') := by
  unfold event
  rw [h]

/-- **No gaps.**  The numbers among the items are consecutive. -/
theorem Event.filterMap_number?_items (i : Nat) (events : List (Event ε)) :
    (items i events).filterMap Item.number? = List.range' i (events.countP isAccepted) := by
  induction events generalizing i with
  | nil => rfl
  | cons event rest ih =>
    cases event with
    | failed e =>
      show (items i rest).filterMap Item.number? = _
      rw [ih i, List.countP_cons_of_neg (by simp [isAccepted])]
    | refused record =>
      show (items i rest).filterMap Item.number? = _
      rw [ih i, List.countP_cons_of_neg (by simp [isAccepted])]
    | accepted record =>
      show i :: (items (i + 1) rest).filterMap Item.number? = _
      rw [ih (i + 1), List.countP_cons_of_pos (by simp [isAccepted])]
      rfl

/-- A repository fails on a row only when the object is neither at hand nor to be made. -/
theorem Repository.load_eq_error_iff (r : Repository ε) (row : Row) (useCache : Bool)
    (e : SqlError) :
    (r.load row useCache).1 = .error e ↔
      (if useCache then r.keyOf? row else none).bind r.find? = none ∧ r.ofRow row = .error e := by
  unfold load
  extract_lets key
  cases hfind : key.bind r.find? with
  | some object =>
    constructor
    · intro h
      cases h
    · rintro ⟨h, -⟩
      cases h
  | none =>
    cases hrow : r.ofRow row with
    | error e' => simp
    | ok value =>
      constructor
      · intro h
        cases hkey : key with
        | none =>
          simp only [hkey] at h
          cases h
        | some k =>
          simp only [hkey] at h
          cases h
      · rintro ⟨-, h⟩
        cases h

theorem Select.event_eq_failed_iff (s : Select ε) (hydrate : Bool) (row : Row)
    (r : Repository ε) (e : SqlError) :
    (s.event hydrate row r).1 = .failed e ↔
      hydrate = true ∧ (r.load row s.usingCache).1 = .error e := by
  unfold event record
  cases hydrate with
  | false =>
    constructor
    · intro h
      by_cases ha : s.accepts (.row row) <;> simp [ha] at h
    · rintro ⟨h, -⟩
      cases h
  | true =>
    rcases hload : r.load row s.usingCache with ⟨res, r'⟩
    cases res with
    | error e' => simp [Except.map]
    | ok object =>
      constructor
      · intro h
        by_cases ha : s.accepts (.object object) <;> simp [Except.map, ha] at h
      · rintro ⟨-, h⟩
        cases h

end SqlGateway
