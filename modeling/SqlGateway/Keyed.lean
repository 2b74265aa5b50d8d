/-!
# Lists of entries by key

A list of entries in the order of their keys, one entry a key, read as a map
from texts.

    find? k' (insert k v es) = if k' = k then some v else find? k' es
    find? k' (erase k es)    = if k' = k then none else find? k' es
-/

namespace SqlGateway

abbrev Keyed (α : Type) : Type := List (String × α)

namespace Keyed

variable {α : Type}

/-- Puts an entry in its place; one with that key is replaced. -/
def insert (key : String) (value : α) : Keyed α → Keyed α
  | [] => [(key, value)]
  | (k, v) :: rest =>
    if key = k then (key, value) :: rest
    else if key < k then (key, value) :: (k, v) :: rest
    else (k, v) :: insert key value rest

def find? (key : String) : Keyed α → Option α
  | [] => none
  | (k, v) :: rest => if key = k then some v else find? key rest

def erase (key : String) (entries : Keyed α) : Keyed α :=
  entries.filter fun e => e.1 != key

def contains (key : String) (entries : Keyed α) : Bool :=
  (find? key entries).isSome

def keys (entries : Keyed α) : List String :=
  entries.map (·.1)

/-- The last entry of a key counts. -/
def ofList (entries : List (String × α)) : Keyed α :=
  entries.foldl (fun es e => insert e.1 e.2 es) []

/-! ## Lemmas -/

theorem find?_insert (key k : String) (value : α) (es : Keyed α) :
    find? k (insert key value es) = if k = key then some value else find? k es := by
  induction es with
  | nil => rfl
  | cons e es ih =>
    simp only [insert]
    split
    · next h => simp only [find?, ← h]; split <;> rfl
    · split
      · rfl
      · next ne _ =>
        simp only [find?, ih]
        split
        · next h => simp [h, Ne.symm ne]
        · rfl

theorem find?_erase (key k : String) (es : Keyed α) :
    find? k (erase key es) = if k = key then none else find? k es := by
  induction es with
  | nil => simp [erase, find?]
  | cons e es ih =>
    obtain ⟨l, v⟩ := e
    simp only [erase, List.filter_cons] at ih ⊢
    by_cases hl : l = key
    · subst hl
      simp only [bne_self_eq_false, Bool.false_eq_true, if_false, find?]
      rw [ih]
      split <;> rfl
    · have : (l != key) = true := by simp [hl]
      simp only [this, if_true, find?]
      rw [ih]
      by_cases h : k = l
      · subst h; simp [hl]
      · simp [h]

end Keyed

end SqlGateway
