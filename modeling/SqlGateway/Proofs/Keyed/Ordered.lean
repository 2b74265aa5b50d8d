import Mathlib.Data.String.Basic
import SqlGateway.Keyed

/-!
# Entries in order

The keys of a list of entries stand in strictly ascending order: one entry a
key.  Every entry is then found under its key.

    Ordered es  →  (find? k es = some v  ↔  (k, v) ∈ es)
-/

namespace SqlGateway.Keyed

variable {α β : Type}

def Ordered (es : Keyed α) : Prop :=
  es.keys.Pairwise (· < ·)

theorem ordered_cons {e : String × α} {es : Keyed α} :
    Ordered (e :: es) ↔ (∀ d ∈ es, e.1 < d.1) ∧ Ordered es := by
  unfold Ordered keys
  rw [List.map_cons, List.pairwise_cons, List.forall_mem_map]

theorem Ordered.of_sublist {es : Keyed α} {ds : Keyed β} (h : es.Ordered)
    (hkeys : ds.keys.Sublist es.keys) : ds.Ordered :=
  h.sublist hkeys

theorem Ordered.filter {es : Keyed α} (h : es.Ordered) (p : String × α → Bool) :
    Ordered (es.filter p) :=
  h.of_sublist (List.filter_sublist.map _)

/-! ## Insertion -/

theorem mem_insert {key : String} {value : α} {es : Keyed α} {e : String × α}
    (h : e ∈ insert key value es) : e = (key, value) ∨ e ∈ es := by
  induction es with
  | nil => exact .inl (List.mem_singleton.1 h)
  | cons d es ih =>
    unfold insert at h
    split at h
    · exact (List.mem_cons.1 h).imp_right (List.mem_cons_of_mem _)
    · split at h
      · exact List.mem_cons.1 h
      · rcases List.mem_cons.1 h with rfl | h
        · exact .inr List.mem_cons_self
        · exact (ih h).imp_right (List.mem_cons_of_mem _)

theorem forall_mem_insert {p : String × α → Prop} {key : String} {value : α} {es : Keyed α}
    (h : ∀ e ∈ es, p e) (hvalue : p (key, value)) : ∀ e ∈ insert key value es, p e := by
  intro e he
  rcases mem_insert he with rfl | he
  · exact hvalue
  · exact h e he

theorem forall_mem_ofList {p : String × α → Prop} {entries : List (String × α)}
    (h : ∀ e ∈ entries, p e) : ∀ e ∈ ofList entries, p e := by
  refine List.foldlRecOn (motive := fun es : Keyed α => ∀ e ∈ es, p e) entries _ nofun ?_
  intro es hes e he
  exact forall_mem_insert hes (h e he)

theorem Ordered.insert {es : Keyed α} (h : es.Ordered) (key : String) (value : α) :
    Ordered (insert key value es) := by
  induction es with
  | nil => exact List.pairwise_singleton _ key
  | cons e es ih =>
    obtain ⟨hhead, htail⟩ := ordered_cons.1 h
    unfold Keyed.insert
    split
    · next heq =>
      rw [heq]
      exact ordered_cons.2 ⟨hhead, htail⟩
    · next hne =>
      split
      · next hlt =>
        refine ordered_cons.2 ⟨List.forall_mem_cons.2 ⟨hlt, ?_⟩, h⟩
        exact fun d hd => lt_trans hlt (hhead d hd)
      · next hge =>
        have hgt : e.1 < key := lt_of_le_of_ne (not_lt.1 hge) (Ne.symm hne)
        exact ordered_cons.2 ⟨forall_mem_insert hhead hgt, ih htail⟩

/-! ## Finding -/

theorem find?_cons (key : String) (e : String × α) (es : Keyed α) :
    find? key (e :: es) = (find? key [e]).or (find? key es) := by
  simp only [find?]
  split <;> rfl

/-- An entry that is added only where its key is not taken comes after those that are there. -/
theorem find?_insert_unless (key : String) (es : Keyed α) (e : String × α) :
    find? key (if contains e.1 es then es else insert e.1 e.2 es)
      = (find? key es).or (find? key [e]) := by
  cases hfind : find? e.1 es with
  | none =>
    have hfree : contains e.1 es = false := by rw [contains, hfind, Option.isSome_none]
    rw [hfree, if_neg Bool.false_ne_true, find?_insert]
    by_cases hkey : key = e.1
    · simp [hkey, hfind, find?]
    · simp [hkey, find?]
  | some v =>
    have htaken : contains e.1 es = true := by rw [contains, hfind, Option.isSome_some]
    rw [htaken, if_pos rfl]
    by_cases hkey : key = e.1
    · simp [hkey, hfind]
    · simp [hkey, find?]

theorem mem_of_find? {key : String} {value : α} {es : Keyed α} (h : find? key es = some value) :
    (key, value) ∈ es := by
  induction es with
  | nil => cases h
  | cons e es ih =>
    unfold find? at h
    split at h
    · next heq =>
      cases h
      rw [heq]
      exact List.mem_cons_self
    · exact List.mem_cons_of_mem _ (ih h)

theorem Ordered.find?_eq_some_iff {es : Keyed α} (h : es.Ordered) {key : String} {value : α} :
    find? key es = some value ↔ (key, value) ∈ es := by
  refine ⟨mem_of_find?, fun hmem => ?_⟩
  induction es with
  | nil => cases hmem
  | cons e es ih =>
    obtain ⟨hhead, htail⟩ := ordered_cons.1 h
    unfold find?
    rcases List.mem_cons.1 hmem with rfl | hmem
    · exact if_pos rfl
    · rw [if_neg (ne_of_gt (hhead _ hmem))]
      exact ih htail hmem

end SqlGateway.Keyed
