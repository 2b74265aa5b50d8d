import SqlGateway.Proofs.Calendar.Text
import SqlGateway.Proofs.Json.Text
import SqlGateway.Proofs.Repository.History
import SqlGateway.Proofs.Text.Utf8

/-!
# What a key tells of an id

A key is the text of an id, and a text may show less than the id is: octets that
are no text are replaced, and times are shown to the second.  Ids of one kind
that a text shows in full have keys of their own, and no load hands over the
object of another row then.

    key = key'   iff   the ids show alike, for two ids of one kind
-/

namespace SqlGateway

open SqlGateway.Decimal (Binary)

variable {ε : Type}

/-! ## Algorithm -/

namespace Value

/-- Both are of one kind. -/
inductive SameKind : Value → Value → Prop where
  | null : SameKind .null .null
  | bool (a b : Bool) : SameKind (.bool a) (.bool b)
  | int (i j : Int) : SameKind (.int i) (.int j)
  | uint (m n : Nat) : SameKind (.uint m) (.uint n)
  | float (x y : Float) : SameKind (.float x) (.float y)
  | text (s t : String) : SameKind (.text s) (.text t)
  | bytes (a b : List UInt8) : SameKind (.bytes a) (.bytes b)
  | date (d e : Date) : SameKind (.date d) (.date e)
  | time (t u : Time) : SameKind (.time t) (.time u)
  | datetime (t u : DateTime) : SameKind (.datetime t) (.datetime u)
  | json (a b : Json) : SameKind (.json a) (.json b)
  | list (as bs : List Value) : SameKind (.list as) (.list bs)

/-- Two values of one kind differ in nothing that their texts show. -/
def ShowsAlike : Value → Value → Prop
  | .float x, .float y => Binary.ofFloat x = Binary.ofFloat y
  | .bytes a, .bytes b => Text.Utf8.lossy a = Text.Utf8.lossy b
  | .time t, .time u => t.SameSecond u
  | .datetime t, .datetime u => t.date = u.date ∧ t.time.SameSecond u.time
  | .json a, .json b => a.compact = b.compact
  | .list as, .list bs => ",".intercalate (displayItems as) = ",".intercalate (displayItems bs)
  | v, w => v = w

/-- The text shows all of the value.  That of a list does not show where an item ends. -/
def Legible : Value → Prop
  | .float x => Binary.ofFloat x ≠ .nan
  | .bytes b => (Text.Utf8.decode? b).isSome
  | .time t => t.IsWhole
  | .datetime t => t.time.IsWhole
  | .json j => j.IsFinite
  | .list _ => False
  | _ => True

end Value

/-- The object was made for the row in one of the visits. -/
def RepositoryVisit.MadeFor (vs : List (RepositoryVisit ε)) (o : Object ε) (row : Row) : Prop :=
  ∃ v ∈ vs, v.Makes row o

/-! ## Values -/

namespace Value

theorem SameKind.isNull_eq {v w : Value} (h : v.SameKind w) : v.isNull = w.isNull := by
  cases h <;> rfl

/-- The texts of two values of one kind are the same just when the values show alike. -/
theorem SameKind.display_eq_iff {v w : Value} (h : v.SameKind w) :
    v.display = w.display ↔ v.ShowsAlike w := by
  cases h with
  | null => exact iff_of_true rfl rfl
  | bool a b => cases a <;> cases b <;> simp [display, boolText, ShowsAlike]
  | int i j => exact ⟨fun h => congrArg _ (Decimal.ofInt_inj h), fun h => congrArg display h⟩
  | uint m n => exact ⟨fun h => congrArg _ (Decimal.ofNat_inj h), fun h => congrArg display h⟩
  | text s t => exact ⟨fun h => congrArg _ h, fun h => congrArg display h⟩
  | bytes a b => exact Iff.rfl
  | json a b => exact Iff.rfl
  | float x y =>
    constructor
    · intro h
      exact Binary.chars_inj .plain (String.ofList_injective h)
    · intro h
      show Decimal.write .plain x = Decimal.write .plain y
      unfold Decimal.write
      rw [show Binary.ofFloat x = Binary.ofFloat y from h]
  | date d e =>
    constructor
    · intro h
      exact congrArg _ (Date.text_inj (congrArg String.toList h))
    · intro h
      exact congrArg display h
  | time t u =>
    show t.text = u.text ↔ t.SameSecond u
    rw [← Time.text_eq_iff, String.toList_inj]
  | datetime t u =>
    show t.text = u.text ↔ t.date = u.date ∧ t.time.SameSecond u.time
    rw [← DateTime.text_eq_iff, String.toList_inj]
  | list as bs =>
    show "(" ++ _ ++ ")" = "(" ++ _ ++ ")" ↔ _ = _
    simp

/-- Of values that their texts show in full, those that show alike are the same. -/
theorem ShowsAlike.eq {v w : Value} (hkind : v.SameKind w) (h : v.ShowsAlike w) (hv : v.Legible)
    (hw : w.Legible) : v = w := by
  cases hkind with
  | float x y => exact congrArg _ (Binary.ofFloat_inj hv h)
  | bytes a b => exact congrArg _ (Text.Utf8.lossy_inj hv hw h)
  | time t u => exact congrArg _ (Time.SameSecond.eq h hv hw)
  | datetime t u =>
    obtain ⟨date, time⟩ := t
    obtain ⟨date', time'⟩ := u
    obtain ⟨hdate, htime⟩ := h
    have htime := Time.SameSecond.eq htime hv hw
    cases hdate
    cases htime
    rfl
  | json a b => exact congrArg _ (Json.compact_inj hv hw h)
  | list as bs => exact hv.elim
  | _ => exact h

end Value

/-! ## Keys -/

namespace Repository

theorem keyOf?_of_get {r : Repository ε} {row : Row} {v : Value} (h : row.get? r.idField = some v)
    (hnull : v.isNull = false) : r.keyOf? row = some v.display := by
  unfold keyOf?
  rw [h]
  simp [hnull]

/-- Two ids of one kind have one key just when they show alike. -/
theorem keyOf?_eq_iff {r : Repository ε} {row row' : Row} {v w : Value}
    (hv : row.get? r.idField = some v) (hw : row'.get? r.idField = some w)
    (hnull : v.isNull = false) (hkind : v.SameKind w) :
    r.keyOf? row = r.keyOf? row' ↔ v.ShowsAlike w := by
  rw [keyOf?_of_get hv hnull, keyOf?_of_get hw (hkind.isNull_eq ▸ hnull), Option.some_inj]
  exact hkind.display_eq_iff

end Repository

/-! ## Objects -/

namespace RepositoryVisit

/-- In a lawful history an object is made once. -/
theorem MadeFor.unique {new : Repository ε} {vs : List (RepositoryVisit ε)}
    (hlawful : ∀ {earlier v later}, vs = earlier ++ v :: later → v.Lawful new earlier)
    {o : Object ε} {row row' : Row} (h : MadeFor vs o row) (h' : MadeFor vs o row') : row = row' := by
  obtain ⟨v, hv, hmakes⟩ := h
  obtain ⟨v', hv', hmakes'⟩ := h'
  have hobject : ∀ {u : RepositoryVisit ε} {row}, u.Makes row o → u.reply.object? = some o := by
    intro u row hu
    rw [hu.replied]
    rfl
  have hlater : ∀ {u u' row row'}, u.Makes row o → u'.Makes row' o → ∀ earlier later,
      vs = earlier ++ u :: later → u' ∉ earlier := by
    intro u u' row row' hu hu' earlier later hsplit hmem
    exact (hlawful hsplit).fresh row o hu u' hmem o (hobject hu') rfl
  obtain ⟨earlier, later, hsplit⟩ := List.append_of_mem hv
  have hmem := hv'
  rw [hsplit, List.mem_append, List.mem_cons] at hmem
  rcases hmem with hbefore | rfl | hafter
  · exact absurd hbefore (hlater hmakes hmakes' earlier later hsplit)
  · obtain ⟨useCache, hcall⟩ := hmakes.called
    obtain ⟨useCache', hcall'⟩ := hmakes'.called
    rw [hcall] at hcall'
    cases hcall'
    rfl
  · obtain ⟨between, later', hsplit'⟩ := List.append_of_mem hafter
    refine absurd ?_ (hlater hmakes' hmakes (earlier ++ v :: between) later' ?_)
    · exact List.mem_append_right _ List.mem_cons_self
    · rw [hsplit, hsplit']
      simp

end RepositoryVisit

namespace Repository

/-- The object that a load hands over was made for rows with the key of its row, and for none
else. -/
theorem madeFor_of_load (ofRow : Row → Except SqlError ε) (table idField : String)
    (calls : List RepositoryCall) :
    let new : Repository ε := { ofRow, table, idField }
    ∀ v ∈ history calls new, ∀ row useCache o, v.call = .load row useCache →
      v.reply = .loaded (.ok o) → (∃ row', RepositoryVisit.MadeFor (history calls new) o row') ∧
        ∀ row', RepositoryVisit.MadeFor (history calls new) o row' →
          new.keyOf? row' = new.keyOf? row := by
  intro new v hv row useCache o hcall hreply
  have hstart : Remembers new [] new := .start ofRow table idField
  obtain ⟨u, hu, row', hmakes, hkey⟩ :=
    (hstart.history calls).made v hv row useCache o hcall hreply
  have hmade : RepositoryVisit.MadeFor (history calls new) o row' := ⟨u, hu, hmakes⟩
  refine ⟨⟨row', hmade⟩, ?_⟩
  intro row'' hmade'
  rw [← hkey, RepositoryVisit.MadeFor.unique (lawful_history ofRow table idField) hmade' hmade]

/-- **Whose object it is.**  Ids of one kind have one key just when they show alike, and those that
their texts show in full only when they are the same.  Whatever was called on a new repository
before, the object that a load hands over was made for a row whose id, if of one kind with that of
the load's row, shows alike. -/
theorem history_tells_apart (ofRow : Row → Except SqlError ε) (table idField : String)
    (calls : List RepositoryCall) :
    let new : Repository ε := { ofRow, table, idField }
    (∀ row row' v w, row.get? idField = some v → row'.get? idField = some w →
      v.isNull = false → v.SameKind w →
        (new.keyOf? row = new.keyOf? row' ↔ v.ShowsAlike w) ∧
        (v.Legible → w.Legible → new.keyOf? row = new.keyOf? row' → v = w)) ∧
    ∀ visit ∈ history calls new, ∀ row useCache o, visit.call = .load row useCache →
      visit.reply = .loaded (.ok o) →
        (∃ row', RepositoryVisit.MadeFor (history calls new) o row') ∧
        ∀ row', RepositoryVisit.MadeFor (history calls new) o row' →
          ∀ v w, row.get? idField = some v → row'.get? idField = some w → v.isNull = false →
            v.SameKind w → v.ShowsAlike w ∧ (v.Legible → w.Legible → v = w) := by
  intro new
  constructor
  · intro row row' v w hv hw hnull hkind
    have hiff : new.keyOf? row = new.keyOf? row' ↔ v.ShowsAlike w :=
      keyOf?_eq_iff (r := new) hv hw hnull hkind
    exact ⟨hiff, fun hlegible hlegible' hkey => (hiff.1 hkey).eq hkind hlegible hlegible'⟩
  · intro visit hvisit row useCache o hcall hreply
    obtain ⟨hmade, hkey⟩ :=
      madeFor_of_load ofRow table idField calls visit hvisit row useCache o hcall hreply
    refine ⟨hmade, ?_⟩
    intro row' hrow' v w hv hw hnull hkind
    have halike : v.ShowsAlike w :=
      (keyOf?_eq_iff (r := new) hv hw hnull hkind).1 (hkey row' hrow').symm
    exact ⟨halike, halike.eq hkind⟩

/-- Octets that are no text have one key. -/
example (r : Repository ε) (h : r.idField = "id") :
    r.keyOf? ⟨[("id", .bytes [0xFF])]⟩ = r.keyOf? ⟨[("id", .bytes [0xFE])]⟩ := by
  unfold keyOf?
  rw [h]
  rfl

end Repository

end SqlGateway
