import SqlGateway.Entity.Repository

/-!
# One call of a repository

What a load can come to: an object that is at hand, a failure to make one, a
new object that is kept, or a new one that is not.  The first does not look at
how objects are made, and only the third touches the cache.

    after a call   find? k = none                     if it forgets k
                             find? k, or what it keeps under k   else
-/

namespace SqlGateway

variable {ε : Type}

/-! ## Algorithm -/

/-- What a caller may do with a repository. -/
inductive RepositoryCall where
  | load (row : Row) (useCache : Bool)
  | invalidate (key : String)
  | clear

/-- What a call hands over. -/
inductive RepositoryReply (ε : Type) where
  | loaded (result : Except SqlError (Object ε))
  | forgotten (object : Option (Object ε))
  | cleared

namespace RepositoryCall

def perform (r : Repository ε) : RepositoryCall → RepositoryReply ε × Repository ε
  | .load row useCache => (.loaded (r.load row useCache).1, (r.load row useCache).2)
  | .invalidate key => (.forgotten (r.invalidate key).1, (r.invalidate key).2)
  | .clear => (.cleared, r.clear)

/-- Nothing is left under this key. -/
def forgets (key : String) : RepositoryCall → Bool
  | .load .. => false
  | .invalidate key' => key' == key
  | .clear => true

end RepositoryCall

/-- The object that a call hands over, if it does. -/
def RepositoryReply.object? : RepositoryReply ε → Option (Object ε)
  | .loaded (.ok o) => some o
  | .loaded (.error _) => none
  | .forgotten object => object
  | .cleared => none

namespace Repository

/-- What a cached load of a row with this key gives, if it succeeds. -/
def keeps? (r : Repository ε) (key : String) :
    RepositoryCall → RepositoryReply ε → Option (Object ε)
  | .load row true, .loaded (.ok o) => if r.keyOf? row = some key then some o else none
  | _, _ => none

/-- Both make the same objects of the same table. -/
structure SameSource (r r' : Repository ε) : Prop where
  ofRow : r.ofRow = r'.ofRow
  table : r.table = r'.table
  idField : r.idField = r'.idField

/-- The key is one that a load of the row looks under. -/
def LooksUnder (r : Repository ε) (row : Row) (useCache : Bool) (key : String) : Prop :=
  useCache = true ∧ r.keyOf? row = some key

/-- A load finds no object, and has to make one. -/
def Misses (r : Repository ε) (row : Row) (useCache : Bool) : Prop :=
  ∀ key, r.LooksUnder row useCache key → r.find? key = none

/-- Everything that a load can come to. -/
inductive Loads (r : Repository ε) (row : Row) (useCache : Bool) :
    Except SqlError (Object ε) × Repository ε → Prop where
  | found (key : String) (o : Object ε) (hkey : r.LooksUnder row useCache key)
      (h : r.find? key = some o) : Loads r row useCache (.ok o, r)
  | failed (e : SqlError) (hmiss : r.Misses row useCache) (h : r.ofRow row = .error e) :
      Loads r row useCache (.error e, r)
  | kept (key : String) (value : ε) (hkey : r.LooksUnder row useCache key)
      (hmiss : r.find? key = none) (h : r.ofRow row = .ok value) :
      Loads r row useCache (.ok ⟨r.made, value⟩,
        { r with made := r.made + 1, cache := Keyed.insert key ⟨r.made, value⟩ r.cache })
  | passed (value : ε) (hkey : ∀ key, ¬ r.LooksUnder row useCache key)
      (h : r.ofRow row = .ok value) :
      Loads r row useCache (.ok ⟨r.made, value⟩, { r with made := r.made + 1 })

/-! ## Lemmas -/

theorem key_eq_some_iff (r : Repository ε) (row : Row) (useCache : Bool) (key : String) :
    (if useCache then r.keyOf? row else none) = some key ↔ r.LooksUnder row useCache key := by
  cases useCache <;> simp [LooksUnder]

theorem loads_load (r : Repository ε) (row : Row) (useCache : Bool) :
    r.Loads row useCache (r.load row useCache) := by
  unfold load
  extract_lets key
  have hkey : ∀ k, key = some k ↔ r.LooksUnder row useCache k := key_eq_some_iff r row useCache
  cases hk : key with
  | none =>
    have hnever : ∀ k, ¬ r.LooksUnder row useCache k := by
      intro k h
      cases hk.symm.trans ((hkey k).2 h)
    cases hrow : r.ofRow row with
    | error e => exact .failed e (fun k h => absurd h (hnever k)) hrow
    | ok value => exact .passed value hnever hrow
  | some k =>
    have hlooks := (hkey k).1 hk
    cases hfind : r.find? k with
    | some o =>
      simp only [Option.bind_some, hfind]
      exact .found k o hlooks hfind
    | none =>
      simp only [Option.bind_some, hfind]
      cases hrow : r.ofRow row with
      | error e =>
        refine .failed e ?_ hrow
        intro k' h
        cases hk.symm.trans ((hkey k').2 h)
        exact hfind
      | ok value => exact .kept k value hlooks hfind hrow

theorem keyOf?_congr {r r' : Repository ε} (h : r.SameSource r') (row : Row) :
    r.keyOf? row = r'.keyOf? row := by
  unfold keyOf?
  rw [h.idField]

/-- A row without the id column, or with a null there, has no key, and no other row has none. -/
theorem keyOf?_eq_none_iff (r : Repository ε) (row : Row) :
    r.keyOf? row = none ↔ row.get? r.idField = none ∨ row.get? r.idField = some .null := by
  unfold keyOf?
  cases row.get? r.idField with
  | none => simp
  | some id => cases id <;> simp [Value.isNull]

/-- An object at hand is taken, however objects are made. -/
theorem load_of_find? {r : Repository ε} {row : Row} {key : String} {o : Object ε}
    (hkey : r.keyOf? row = some key) (h : r.find? key = some o) : r.load row true = (.ok o, r) := by
  unfold load
  simp only [if_true, hkey, Option.bind_some, h]

/-- A load that finds no object makes one, or hands over why there is none. -/
theorem load_of_misses {r : Repository ε} {row : Row} {useCache : Bool}
    (h : r.Misses row useCache) :
    (∃ value, r.ofRow row = .ok value ∧ (r.load row useCache).1 = .ok ⟨r.made, value⟩) ∨
      ∃ e, r.ofRow row = .error e ∧ (r.load row useCache).1 = .error e := by
  have hload := r.loads_load row useCache
  generalize r.load row useCache = res at hload
  cases hload with
  | found key o hkey hfind => cases hfind.symm.trans (h key hkey)
  | failed e hmiss hrow => exact .inr ⟨e, hrow, rfl⟩
  | kept key value hkey hmiss hrow => exact .inl ⟨value, hrow, rfl⟩
  | passed value hkey hrow => exact .inl ⟨value, hrow, rfl⟩

/-- Only a cached load of a row with a key, if it succeeds, touches the cache. -/
theorem cache_load {r : Repository ε} {row : Row} {useCache : Bool}
    (h : useCache = false ∨ r.keyOf? row = none ∨ ∃ e, (r.load row useCache).1 = .error e) :
    (r.load row useCache).2.cache = r.cache := by
  have hload := r.loads_load row useCache
  generalize r.load row useCache = res at hload h
  cases hload with
  | found key o hkey hfind => rfl
  | failed e hmiss hrow => rfl
  | passed value hkey hrow => rfl
  | kept key value hkey hmiss hrow =>
    rcases h with hoff | hnokey | ⟨e, hfailed⟩
    · cases hkey.1.symm.trans hoff
    · cases hkey.2.symm.trans hnokey
    · cases hfailed

theorem perform_load (r : Repository ε) (row : Row) (useCache : Bool) :
    (RepositoryCall.load row useCache).perform r
      = (.loaded (r.load row useCache).1, (r.load row useCache).2) := rfl

/-- No call changes where the objects come from. -/
theorem sameSource_perform (r : Repository ε) (call : RepositoryCall) :
    (call.perform r).2.SameSource r := by
  cases call with
  | load row useCache =>
    have h := r.loads_load row useCache
    rw [perform_load]
    generalize r.load row useCache = res at h
    cases h <;> exact ⟨rfl, rfl, rfl⟩
  | invalidate key => exact ⟨rfl, rfl, rfl⟩
  | clear => exact ⟨rfl, rfl, rfl⟩

theorem made_le_perform (r : Repository ε) (call : RepositoryCall) :
    r.made ≤ (call.perform r).2.made := by
  cases call with
  | load row useCache =>
    have h := r.loads_load row useCache
    rw [perform_load]
    generalize r.load row useCache = res at h
    cases h <;> simp
  | invalidate key => exact Nat.le_refl _
  | clear => exact Nat.le_refl _

/-- What is under a key after a call. -/
theorem find?_perform (r : Repository ε) (call : RepositoryCall) (key : String) :
    (call.perform r).2.find? key = if call.forgets key then none
      else (r.find? key).or (r.keeps? key call (call.perform r).1) := by
  cases call with
  | load row useCache =>
    have h := r.loads_load row useCache
    rw [perform_load, if_neg (by simp [RepositoryCall.forgets])]
    generalize r.load row useCache = res at h
    cases h with
    | found k o hlooks hfind =>
      obtain ⟨rfl, hk⟩ := hlooks
      simp only [keeps?, hk]
      by_cases heq : k = key
      · subst heq
        simp [hfind]
      · simp [heq]
    | failed e hmiss hrow =>
      cases useCache <;> simp [keeps?]
    | kept k value hlooks hnone hrow =>
      obtain ⟨rfl, hk⟩ := hlooks
      simp only [keeps?, hk]
      show Keyed.find? key (Keyed.insert k _ r.cache) = _
      rw [Keyed.find?_insert]
      by_cases heq : k = key
      · subst heq
        simp [hnone]
      · simp [heq, Ne.symm heq, find?]
    | passed value hnever hrow =>
      have hkeeps : r.keeps? key (.load row useCache) (.loaded (.ok ⟨r.made, value⟩)) = none := by
        unfold keeps?
        cases useCache with
        | false => rfl
        | true => exact if_neg fun hk => hnever key ⟨rfl, hk⟩
      simp only [hkeeps, Option.or_none]
      rfl
  | invalidate k =>
    show Keyed.find? key (Keyed.erase k r.cache) = _
    rw [Keyed.find?_erase]
    by_cases heq : key = k
    · simp [RepositoryCall.forgets, heq]
    · simp [RepositoryCall.forgets, keeps?, heq, Ne.symm heq, find?]
  | clear => rfl

theorem keeps?_eq_some_iff (r : Repository ε) (key : String) (call : RepositoryCall)
    (reply : RepositoryReply ε) (o : Object ε) :
    r.keeps? key call reply = some o ↔
      ∃ row, call = .load row true ∧ reply = .loaded (.ok o) ∧ r.keyOf? row = some key := by
  constructor
  · intro h
    unfold keeps? at h
    split at h
    · next row o' =>
      split at h
      · next hkey =>
        cases h
        exact ⟨row, rfl, rfl, hkey⟩
      · cases h
    · cases h
  · rintro ⟨row, rfl, rfl, hkey⟩
    exact if_pos hkey

end Repository

end SqlGateway
