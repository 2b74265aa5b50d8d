import SqlGateway.Proofs.Category
import SqlGateway.Proofs.Cursor.Step
import SqlGateway.Proofs.Text.Utf8
import SqlGateway.Script

/-!
# Failures on their way to the caller

The server's own error number gives a failure its category, or else the first
two octets of the SQLSTATE do.  They can be taken off only where the text has a
position behind them; where it has none, the program panics.  Every other
failure, while connecting, at a statement or at a row, comes out as one error
that names what was being done.

    category? f = none   iff   no number settles it, and octet 2 of the SQLSTATE is no position
    native sql act       fails with an error that tells of f, when s fails with f
-/

namespace SqlGateway

variable {σ ε α : Type}

/-! ## Algorithm -/

/-- The number alone says what is wrong. -/
def DriverFailure.IsSettled (f : DriverFailure) : Prop :=
  f.vendorCode = some 1049 ∨ f.vendorCode = some 4060

/-- The error tells of the failure, and a caller gets to see it if the failure has a category. -/
structure SqlError.Tells (e : SqlError) (f : DriverFailure) (action : String) : Prop where
  isDriver : e.isDriver = true
  action : e.action? = some action
  category : e.category? = f.category?
  seen : e.isPanic = false ↔ f.category?.isSome = true

/-- The session `s` fails with `f`, for want of a connection or at the statement itself, in the
course of what is named last. -/
inductive Session.Fails (s : Session σ) (w : σ) (sql : String) (act : Connection σ → Native σ α)
    (f : DriverFailure) : String → Prop where
  | connecting (w' : σ) (h : s.Refuses w f w') : Fails s w sql act f (connectAction s.name)
  | acting (c : Connection σ) (w' w'' : σ) (hc : s.Reaches w c w')
      (h : (act c).run w' = (.error f, w'')) : Fails s w sql act f sql

/-! ## Categories -/

namespace DriverFailure

theorem any_vendorCode_iff (f : DriverFailure) :
    f.vendorCode.any Category.isUnknownDatabaseCode = true ↔ f.IsSettled := by
  unfold IsSettled
  cases f.vendorCode with
  | none => simp
  | some code => simp [Category.isUnknownDatabaseCode]

/-- What stands in the way of a category. -/
theorem unclassifiable_iff (f : DriverFailure) :
    f.Unclassifiable ↔ ¬ f.IsSettled ∧ ∃ state, f.sqlstate = some state ∧
      2 ≤ state.utf8ByteSize ∧ ¬ String.Pos.Raw.IsValid state ⟨2⟩ := by
  rw [← any_vendorCode_iff, Bool.not_eq_true]
  constructor
  · rintro ⟨hcode, state, hstate, hsize, hinside⟩
    refine ⟨hcode, state, hstate, hsize, ?_⟩
    rw [← Text.Utf8.isBoundary_iff, hinside]
    exact Bool.false_ne_true
  · rintro ⟨hcode, state, hstate, hsize, hinside⟩
    refine ⟨hcode, state, hstate, hsize, ?_⟩
    rwa [← Text.Utf8.isBoundary_iff, Bool.not_eq_true] at hinside

end DriverFailure

namespace Category

/-- One character of two octets is in no class, and neither is what begins with it. -/
theorem ofClass_wide (state : String) {c : Char} (hc : c.utf8Size = 2) (cs : List Char) :
    ofClass state (c :: cs) = .unknown := by
  unfold ofClass
  split
  case h_11 => rfl
  all_goals
    next h =>
      obtain ⟨rfl, -⟩ := List.cons.inj h
      exact absurd hc (by decide)

/-- The first two characters and the first two octets name one class. -/
theorem ofClass_take_two {front back : String} (h : front.utf8ByteSize = 2) :
    ofClass (front ++ back) ((front ++ back).toList.take 2)
      = ofClass (front ++ back) front.toList := by
  obtain ⟨cs, rfl⟩ : ∃ cs, front = .ofList cs := ⟨front.toList, String.ofList_toList.symm⟩
  rw [String.toList_append, String.toList_ofList]
  match cs, h with
  | [], h =>
    rw [String.ofList_nil, String.utf8ByteSize_empty] at h
    omega
  | [c], h =>
    rw [← String.singleton_eq_ofList, String.utf8ByteSize_singleton] at h
    rw [ofClass_wide _ h []]
    exact ofClass_wide _ h _
  | [c, d], _ => rfl
  | c :: d :: e :: cs, h =>
    simp only [String.ofList_cons, String.utf8ByteSize_append, String.utf8ByteSize_singleton] at h
    have hc := c.utf8Size_pos
    have hd := d.utf8Size_pos
    have he := e.utf8Size_pos
    omega

theorem ofState?_append {front back : String} (h : front.utf8ByteSize = 2) :
    ofState? (front ++ back)
      = some (if front ++ back = "3D000" then .unknownDatabase
          else ofClass (front ++ back) front.toList) := by
  have hsize : ¬ (front ++ back).utf8ByteSize < 2 := by
    rw [String.utf8ByteSize_append]
    omega
  have hboundary : Text.Utf8.isBoundary 2 (front ++ back) = true :=
    (Text.Utf8.isBoundary_iff_append 2 _).2 ⟨front, back, rfl, h⟩
  unfold ofState?
  rw [if_neg hsize]
  split
  · rfl
  · rw [ofClass_take_two h]

end Category

theorem DriverFailure.category?_append {f : DriverFailure} {front back : String}
    (hnumber : ¬ f.IsSettled) (hstate : f.sqlstate = some (front ++ back))
    (h : front.utf8ByteSize = 2) :
    f.category? = some (if front ++ back = "3D000" then .unknownDatabase
      else .ofClass (front ++ back) front.toList) := by
  have hcode : ¬ f.vendorCode.any Category.isUnknownDatabaseCode = true := by
    rwa [any_vendorCode_iff]
  unfold category? Category.classify?
  rw [if_neg hcode, hstate]
  exact Category.ofState?_append h

/-! ## Errors -/

theorem SqlError.tells_ofFailure (f : DriverFailure) (action : String) :
    (ofFailure f action).Tells f action := by
  refine ⟨rfl, rfl, rfl, ?_⟩
  unfold ofFailure isPanic
  cases f.category? <;> simp

namespace Session

/-- A failure of a session is the failure of what it was asked to do. -/
theorem Fails.run_native {s : Session σ} {w : σ} {sql action : String}
    {act : Connection σ → Native σ α} {f : DriverFailure} (h : s.Fails w sql act f action) :
    ((native sql act).run ⟨s, w⟩).1 = .error (.ofFailure f action) := by
  rcases native_cases s w sql act with ⟨f', w', hrefused, hrun⟩ | ⟨c', w', hreached, hrun⟩
  · rw [hrun]
    cases h with
    | connecting w'' hf =>
      have hsame := hrefused.failure.symm.trans hf.failure
      cases hsame
      rfl
    | acting c w'' _ hc _ => exact absurd hrefused hc.not_refuses
  · rw [hrun]
    cases h with
    | connecting w'' hf => exact absurd hf hreached.not_refuses
    | acting c w'' w''' hc hact =>
      obtain ⟨rfl, rfl⟩ := hreached.unique hc
      rw [hact]

end Session

/-- A failure at a row ends the fetching. -/
theorem Cursor.run_fetch_error {r : Reading σ ε} {st : Statement} {hydrate : Bool}
    {f : DriverFailure} (h : r.cursor.state = .fetching st hydrate) (hf : st.fetch.1 = .error f) :
    (fetch.run r).1 = .error (.ofFailure f fetchAction) := by
  have hst : st.fetch = (.error f, st.fetch.2) := by rw [← hf]
  unfold fetch
  rw [run_bind_ok (run_start_fetching h), run_bind_ok (run_get r)]
  simp only [h]
  rw [hst]
  rfl

/-- **What becomes of a failure.**  It has no category exactly when the number does not settle it
and octet 2 of its SQLSTATE is inside a character; otherwise the two octets before it name its class.
From wherever it comes, connecting, a statement or a row, one error tells of it, which the caller
gets to see exactly when the failure has a category. -/
theorem DriverFailure.reaches_caller (f : DriverFailure) :
    (f.category? = none ↔ ¬ f.IsSettled ∧ ∃ state, f.sqlstate = some state ∧
      2 ≤ state.utf8ByteSize ∧ ¬ String.Pos.Raw.IsValid state ⟨2⟩) ∧
    (∀ front back, ¬ f.IsSettled → f.sqlstate = some (front ++ back) → front.utf8ByteSize = 2 →
      f.category? = some (if front ++ back = "3D000" then .unknownDatabase
        else .ofClass (front ++ back) front.toList)) ∧
    (∀ (s : Session σ) (w : σ) (sql action : String) (act : Connection σ → Native σ α),
      s.Fails w sql act f action →
        ∃ e : SqlError, ((Session.native sql act).run ⟨s, w⟩).1 = .error e ∧ e.Tells f action) ∧
    ∀ (r : Reading σ ε) (st : Statement) (hydrate : Bool),
      r.cursor.state = .fetching st hydrate → st.fetch.1 = .error f →
        ∃ e : SqlError, (Cursor.fetch.run r).1 = .error e ∧ e.Tells f Cursor.fetchAction := by
  refine ⟨?_, ?_, ?_, ?_⟩
  · rw [category?_eq_none_iff, unclassifiable_iff]
  · intro front back hnumber hstate hsize
    exact category?_append hnumber hstate hsize
  · intro s w sql action act h
    exact ⟨_, h.run_native, SqlError.tells_ofFailure f action⟩
  · intro r st hydrate hstate hf
    exact ⟨_, Cursor.run_fetch_error hstate hf, SqlError.tells_ofFailure f Cursor.fetchAction⟩

/-- Of two servers whose codes begin with the octets `42` and `34 C3` the second is not heard,
neither at the connection nor at a row. -/
theorem DriverFailure.reaches_caller_split :
    let heard : DriverFailure := { message := "boom", sqlstate := some "42601" }
    let f : DriverFailure := { message := "boom", sqlstate := some "4é" }
    let s : Session Unit := { name := "a", config := {}, connector := fun _ => throw f }
    let r : Reading Unit Row :=
      { cursor :=
          { request := { dialect := .mysql, idField := "id", options := {} }
            state := .fetching (.ofItems [.failure f]) false }
        desk := ⟨⟨s, ()⟩, { ofRow := .ok, table := "t" }, []⟩ }
    heard.category? = some .syntaxError ∧ f.category? = none ∧
      (∃ e : SqlError, ((Session.native "SELECT 1" (·.query "SELECT 1")).run ⟨s, ()⟩).1 = .error e ∧
        e.Tells f "connecting to instance \"a\"" ∧ e.isPanic = true) ∧
      ∃ e : SqlError, (Cursor.fetch.run r).1 = .error e ∧
        e.Tells f Cursor.fetchAction ∧ e.isPanic = true := by
  intro heard f s r
  have hopen : ∀ g : DriverFailure, g.vendorCode = none → ¬ g.IsSettled := by
    rintro g hg (h | h)
    all_goals
      rw [hg] at h
      cases h
  have hheard := (@reaches_caller Unit Row Statement heard).2.1 "42" "601" (hopen heard rfl) rfl rfl
  obtain ⟨hnone, -, hnative, hfetch⟩ := @reaches_caller Unit Row Statement f
  have hinside : ¬ String.Pos.Raw.IsValid "4é" ⟨2⟩ := by
    rw [← Text.Utf8.isBoundary_iff]
    simp [Text.Utf8.isBoundary, Text.Utf8.isBoundary.go, Char.utf8Size]
  have hcategory := hnone.2 ⟨hopen f rfl, "4é", rfl, by decide, hinside⟩
  have hunseen : ∀ {e : SqlError} {action : String}, e.Tells f action → e.isPanic = true := by
    intro e action he
    cases hpanic : e.isPanic with
    | true => rfl
    | false =>
      have hseen := he.seen.1 hpanic
      rw [hcategory] at hseen
      cases hseen
  refine ⟨hheard, hcategory, ?_, ?_⟩
  · obtain ⟨e, hrun, he⟩ := hnative s () "SELECT 1" _ _ (.connecting () ⟨rfl, rfl⟩)
    exact ⟨e, hrun, he, hunseen he⟩
  · obtain ⟨e, hrun, he⟩ := hfetch r (.ofItems [.failure f]) false rfl rfl
    exact ⟨e, hrun, he, hunseen he⟩

end SqlGateway
