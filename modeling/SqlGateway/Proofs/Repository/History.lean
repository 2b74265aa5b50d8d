import SqlGateway.Proofs.Repository.Load

/-!
# The life of a repository

Any sequence of calls on a new repository, whose rows may fail to make objects.
The object under a key is told by the calls alone.

    find? k = what the first cached load of k gave, since k was last forgotten
-/

namespace SqlGateway

variable {ε : Type}

/-! ## Algorithm -/

/-- One call of a history, with the repository before and after it. -/
structure RepositoryVisit (ε : Type) where
  call : RepositoryCall
  before : Repository ε
  reply : RepositoryReply ε
  after : Repository ε

namespace RepositoryVisit

def of (call : RepositoryCall) (r : Repository ε) : RepositoryVisit ε :=
  ⟨call, r, (call.perform r).1, (call.perform r).2⟩

def forgets (key : String) (v : RepositoryVisit ε) : Bool :=
  v.call.forgets key

/-- What a cached load under the key gave, if it succeeded. -/
def keeps? (key : String) (v : RepositoryVisit ε) : Option (Object ε) :=
  v.before.keeps? key v.call v.reply

/-- The visits after the last one that forgets the key. -/
def sinceForgotten (key : String) (vs : List (RepositoryVisit ε)) : List (RepositoryVisit ε) :=
  (vs.reverse.takeWhile fun v => !v.forgets key).reverse

/-- What the first cached load under the key gave, since the key was last forgotten. -/
def remembered? (key : String) (vs : List (RepositoryVisit ε)) : Option (Object ε) :=
  (sinceForgotten key vs).findSome? (keeps? key)

/-- The visit makes the object of the row; its number is the next one. -/
structure Makes (v : RepositoryVisit ε) (row : Row) (o : Object ε) : Prop where
  called : ∃ useCache, v.call = .load row useCache
  replied : v.reply = .loaded (.ok o)
  value : v.before.ofRow row = .ok o.value
  number : o.number = v.before.made

/-- What a visit may come to after the visits `earlier`, on a repository that was `new` before
them. -/
structure Lawful (new : Repository ε) (earlier : List (RepositoryVisit ε))
    (v : RepositoryVisit ε) : Prop where
  performed : v.call.perform v.before = (v.reply, v.after)
  source : v.before.SameSource new
  found : ∀ key, v.before.find? key = remembered? key earlier
  /-- An object at hand is taken, however objects are made and whatever else the row holds. -/
  taken : ∀ row key o, v.call = .load row true → v.before.keyOf? row = some key →
    v.before.find? key = some o →
    ∀ ofRow, v.call.perform { v.before with ofRow } = (.loaded (.ok o), { v.before with ofRow })
  /-- Every other load makes an object, or hands over why there is none. -/
  made : ∀ row useCache, v.call = .load row useCache → v.before.Misses row useCache →
    (∃ o, v.Makes row o) ∨ ∃ e, v.before.ofRow row = .error e ∧ v.reply = .loaded (.error e)
  /-- An object that is made is another one than all before it. -/
  fresh : ∀ row o, v.Makes row o → ∀ u ∈ earlier, ∀ o', u.reply.object? = some o' →
    o'.number ≠ o.number
  untouched : ∀ row useCache, v.call = .load row useCache →
    (useCache = false ∨ v.before.keyOf? row = none ∨ ∃ e, v.reply = .loaded (.error e)) →
    v.after.cache = v.before.cache
  invalidated : ∀ key, v.call = .invalidate key → v.reply = .forgotten (v.before.find? key) ∧
    ∀ k, v.after.find? k = if k = key then none else v.before.find? k
  cleared : v.call = .clear → ∀ key, v.after.find? key = none

end RepositoryVisit

namespace Repository

/-- The calls one after the other. -/
def history : List RepositoryCall → Repository ε → List (RepositoryVisit ε)
  | [], _ => []
  | call :: calls, r => .of call r :: history calls (RepositoryVisit.of call r).after

/-- Where the calls lead to. -/
def reached : List RepositoryCall → Repository ε → Repository ε
  | [], r => r
  | call :: calls, r => reached calls (RepositoryVisit.of call r).after

end Repository

/-! ## What is remembered -/

namespace RepositoryVisit

theorem remembered?_concat (key : String) (vs : List (RepositoryVisit ε)) (v : RepositoryVisit ε) :
    remembered? key (vs ++ [v])
      = if v.forgets key then none else (remembered? key vs).or (v.keeps? key) := by
  unfold remembered? sinceForgotten
  rw [List.reverse_append, List.reverse_singleton, List.singleton_append, List.takeWhile_cons]
  cases h : v.forgets key with
  | true => simp
  | false => simp [List.findSome?_append]

theorem exists_of_remembered? {key : String} {vs : List (RepositoryVisit ε)} {o : Object ε}
    (h : remembered? key vs = some o) : ∃ v ∈ vs, v.keeps? key = some o := by
  obtain ⟨v, hv, hkeeps⟩ := List.exists_of_findSome?_eq_some h
  refine ⟨v, ?_, hkeeps⟩
  unfold sinceForgotten at hv
  rw [List.mem_reverse] at hv
  exact List.mem_reverse.1 ((List.takeWhile_sublist _).mem hv)

theorem find?_after (call : RepositoryCall) (r : Repository ε) (key : String) :
    (of call r).after.find? key = if (of call r).forgets key then none
      else (r.find? key).or ((of call r).keeps? key) :=
  r.find?_perform call key

theorem makes_of_load {r : Repository ε} {row : Row} {useCache : Bool} {value : ε}
    (hrow : r.ofRow row = .ok value) (h : (r.load row useCache).1 = .ok ⟨r.made, value⟩) :
    (of (.load row useCache) r).Makes row ⟨r.made, value⟩ :=
  ⟨⟨useCache, rfl⟩, congrArg RepositoryReply.loaded h, hrow, rfl⟩

end RepositoryVisit

/-- The repository after the calls `seen`, when `new` was there before them. -/
structure Remembers (new : Repository ε) (seen : List (RepositoryVisit ε)) (r : Repository ε) :
    Prop where
  source : r.SameSource new
  visited : ∀ v ∈ seen, v.before.SameSource new
  found : ∀ key, r.find? key = RepositoryVisit.remembered? key seen
  /-- What was handed over has a number that is taken. -/
  numbered : ∀ v ∈ seen, ∀ o, v.reply.object? = some o → o.number < r.made
  /-- What a load handed over was made for a row with the key of the load's row. -/
  made : ∀ v ∈ seen, ∀ row useCache o, v.call = .load row useCache → v.reply = .loaded (.ok o) →
    ∃ u ∈ seen, ∃ row', u.Makes row' o ∧ new.keyOf? row' = new.keyOf? row

namespace Remembers

variable {new : Repository ε} {seen : List (RepositoryVisit ε)} {r : Repository ε}

theorem start (ofRow : Row → Except SqlError ε) (table idField : String) :
    Remembers { ofRow, table, idField } [] { ofRow, table, idField } where
  source := ⟨rfl, rfl, rfl⟩
  visited _ hv := nomatch hv
  found _ := rfl
  numbered _ hv := nomatch hv
  made _ hv := nomatch hv

/-- What is under a key was handed over by a load of a row with that key. -/
theorem exists_load (h : Remembers new seen r) {key : String} {o : Object ε}
    (hfind : r.find? key = some o) :
    ∃ v ∈ seen, ∃ row, v.call = .load row true ∧ v.reply = .loaded (.ok o) ∧
      new.keyOf? row = some key := by
  rw [h.found] at hfind
  obtain ⟨v, hv, hkeeps⟩ := RepositoryVisit.exists_of_remembered? hfind
  obtain ⟨row, hcall, hreply, hkey⟩ := (v.before.keeps?_eq_some_iff key v.call v.reply o).1 hkeeps
  refine ⟨v, hv, row, hcall, hreply, ?_⟩
  rw [← Repository.keyOf?_congr (h.visited v hv) row]
  exact hkey

theorem number_lt_of_find? (h : Remembers new seen r) {key : String} {o : Object ε}
    (hfind : r.find? key = some o) : o.number < r.made := by
  obtain ⟨v, hv, row, -, hreply, -⟩ := h.exists_load hfind
  apply h.numbered v hv o
  rw [hreply]
  rfl

/-- What a call hands over has a number that is taken after it. -/
theorem number_lt (h : Remembers new seen r) {call : RepositoryCall} {o : Object ε}
    (ho : (call.perform r).1.object? = some o) : o.number < (call.perform r).2.made := by
  cases call with
  | load row useCache =>
    have hload := r.loads_load row useCache
    rw [Repository.perform_load] at ho ⊢
    generalize r.load row useCache = res at hload ho
    cases hload with
    | found key o' hkey hfind =>
      cases ho
      exact h.number_lt_of_find? hfind
    | failed e hmiss hrow => cases ho
    | kept key value hkey hmiss hrow =>
      cases ho
      exact Nat.lt_succ_self _
    | passed value hkey hrow =>
      cases ho
      exact Nat.lt_succ_self _
  | invalidate key => exact h.number_lt_of_find? ho
  | clear => cases ho

/-- The object of a load was made before for a row with its key, or is made now. -/
theorem exists_makes (h : Remembers new seen r) {row : Row} {useCache : Bool} {o : Object ε}
    (ho : (r.load row useCache).1 = .ok o) :
    (∃ u ∈ seen, ∃ row', u.Makes row' o ∧ new.keyOf? row' = new.keyOf? row) ∨
      (RepositoryVisit.of (.load row useCache) r).Makes row o := by
  by_cases hmiss : r.Misses row useCache
  · rcases Repository.load_of_misses hmiss with ⟨value, hrow, hok⟩ | ⟨e, -, hfailed⟩
    · cases hok.symm.trans ho
      exact .inr (RepositoryVisit.makes_of_load hrow hok)
    · cases hfailed.symm.trans ho
  · obtain ⟨key, ⟨rfl, hkey⟩, hfind⟩ : ∃ key, r.LooksUnder row useCache key ∧
        r.find? key ≠ none := by simpa [Repository.Misses] using hmiss
    obtain ⟨o', hfind⟩ := Option.ne_none_iff_exists'.1 hfind
    have hload := Repository.load_of_find? hkey hfind
    cases (congrArg Prod.fst hload).symm.trans ho
    obtain ⟨v, hv, row', hcall, hreply, hkey'⟩ := h.exists_load hfind
    obtain ⟨u, hu, row'', hu', hsame⟩ := h.made v hv row' true o hcall hreply
    refine .inl ⟨u, hu, row'', hu', ?_⟩
    rw [hsame, hkey', ← Repository.keyOf?_congr h.source row, hkey]

theorem step (h : Remembers new seen r) (call : RepositoryCall) :
    Remembers new (seen ++ [.of call r]) (RepositoryVisit.of call r).after := by
  have hsource : (call.perform r).2.SameSource r := r.sameSource_perform call
  constructor
  · exact ⟨hsource.ofRow.trans h.source.ofRow, hsource.table.trans h.source.table,
      hsource.idField.trans h.source.idField⟩
  · rw [List.forall_mem_append, List.forall_mem_singleton]
    exact ⟨h.visited, h.source⟩
  · intro key
    rw [RepositoryVisit.find?_after, RepositoryVisit.remembered?_concat, h.found]
  · rw [List.forall_mem_append, List.forall_mem_singleton]
    constructor
    · intro v hv o ho
      exact Nat.lt_of_lt_of_le (h.numbered v hv o ho) (r.made_le_perform call)
    · intro o ho
      exact h.number_lt ho
  · rw [List.forall_mem_append, List.forall_mem_singleton]
    constructor
    · intro v hv row useCache o hcall hreply
      obtain ⟨u, hu, hmade⟩ := h.made v hv row useCache o hcall hreply
      exact ⟨u, List.mem_append_left _ hu, hmade⟩
    · intro row useCache o hcall hreply
      change call = .load row useCache at hcall
      subst hcall
      rcases h.exists_makes (RepositoryReply.loaded.inj hreply) with ⟨u, hu, hmade⟩ | hmakes
      · exact ⟨u, List.mem_append_left _ hu, hmade⟩
      · exact ⟨_, List.mem_append_right _ (List.mem_singleton.2 rfl), row, hmakes, rfl⟩

/-- The state in which a visit of a history was made. -/
theorem exists_before (h : Remembers new seen r) (calls : List RepositoryCall)
    {earlier later : List (RepositoryVisit ε)} {v : RepositoryVisit ε}
    (hsplit : Repository.history calls r = earlier ++ v :: later) :
    ∃ call r', v = .of call r' ∧ Remembers new (seen ++ earlier) r' := by
  induction calls generalizing seen r earlier with
  | nil => simp [Repository.history] at hsplit
  | cons call calls ih =>
    rw [Repository.history] at hsplit
    cases earlier with
    | nil =>
      obtain ⟨hv, -⟩ := List.cons.inj hsplit
      refine ⟨call, r, hv.symm, ?_⟩
      rwa [List.append_nil]
    | cons u earlier =>
      obtain ⟨hu, hrest⟩ := List.cons.inj hsplit
      subst hu
      obtain ⟨call', r', hv, hseen⟩ := ih (h.step call) hrest
      refine ⟨call', r', hv, ?_⟩
      rwa [List.append_assoc] at hseen

theorem history (h : Remembers new seen r) (calls : List RepositoryCall) :
    Remembers new (seen ++ Repository.history calls r) (Repository.reached calls r) := by
  induction calls generalizing seen r with
  | nil => simpa [Repository.history, Repository.reached] using h
  | cons call calls ih =>
    have hrest := ih (h.step call)
    rw [List.append_assoc] at hrest
    exact hrest

theorem lawful (h : Remembers new seen r) (call : RepositoryCall) :
    (RepositoryVisit.of call r).Lawful new seen := by
  constructor
  · rfl
  · exact h.source
  · exact h.found
  · intro row key o hcall hkey hfind ofRow
    change call = .load row true at hcall
    subst hcall
    have hload := Repository.load_of_find? (r := { r with ofRow }) hkey hfind
    show (RepositoryReply.loaded (Repository.load { r with ofRow } row true).1,
      (Repository.load { r with ofRow } row true).2) = _
    rw [hload]
    rfl
  · intro row useCache hcall hmiss
    change call = .load row useCache at hcall
    subst hcall
    rcases Repository.load_of_misses hmiss with ⟨value, hrow, hok⟩ | ⟨e, hrow, hfailed⟩
    · exact .inl ⟨_, RepositoryVisit.makes_of_load hrow hok⟩
    · exact .inr ⟨e, hrow, congrArg RepositoryReply.loaded hfailed⟩
  · intro row o hmakes u hu o' ho'
    have hlt := h.numbered u hu o' ho'
    have hnumber : o.number = r.made := hmakes.number
    omega
  · intro row useCache hcall hcause
    change call = .load row useCache at hcall
    subst hcall
    show (r.load row useCache).2.cache = r.cache
    apply Repository.cache_load
    rcases hcause with hoff | hnokey | ⟨e, hfailed⟩
    · exact .inl hoff
    · exact .inr (.inl hnokey)
    · exact .inr (.inr ⟨e, RepositoryReply.loaded.inj hfailed⟩)
  · intro key hcall
    change call = .invalidate key at hcall
    subst hcall
    exact ⟨rfl, fun k => Keyed.find?_erase key k r.cache⟩
  · intro hcall key
    change call = .clear at hcall
    subst hcall
    rfl

end Remembers

/-- Every visit of a history on a new repository is lawful. -/
theorem Repository.lawful_history (ofRow : Row → Except SqlError ε) (table idField : String)
    {calls : List RepositoryCall} {earlier later : List (RepositoryVisit ε)} {v : RepositoryVisit ε}
    (h : history calls { ofRow, table, idField } = earlier ++ v :: later) :
    v.Lawful { ofRow, table, idField } earlier := by
  obtain ⟨call, r, rfl, hseen⟩ := (Remembers.start ofRow table idField).exists_before calls h
  exact hseen.lawful call

/-- **The life of a repository.**  After any calls on a new one, what is under a key is what the
first cached load under it gave since it was last forgotten, and every call on the way is
lawful. -/
theorem Repository.history_remembers (ofRow : Row → Except SqlError ε) (table idField : String)
    (calls : List RepositoryCall) :
    let new : Repository ε := { ofRow, table, idField }
    (∀ key, (reached calls new).find? key
      = RepositoryVisit.remembered? key (history calls new)) ∧
    (∀ earlier v later, history calls new = earlier ++ v :: later → v.Lawful new earlier) ∧
    ∀ row, new.keyOf? row = none ↔ row.get? idField = none ∨ row.get? idField = some .null := by
  intro new
  have hstart : Remembers new [] new := .start ofRow table idField
  refine ⟨(hstart.history calls).found, ?_, new.keyOf?_eq_none_iff⟩
  intro earlier v later hsplit
  exact lawful_history ofRow table idField hsplit

end SqlGateway
