import SqlGateway.Proofs.Decimal.Nearest
import SqlGateway.Request.Select

/-!
# The answer to a counting query

The first row of the answer tells the count in one cell: in the first one named
`row_count`, else in the first one named so in other letters' case, else in the
first of all.  The cell holds a whole number or its text spells one.

    Tells rows n   iff   count reads n off the rows
-/

namespace SqlGateway

/-! ## Specification -/

namespace Decimal

/-- Digits and the number that they are. -/
structure Digits (cs : List Char) (n : Nat) : Prop where
  nonempty : cs ≠ []
  digits : ∀ c ∈ cs, c.isDigit = true
  value : Nat.ofDigitChars 10 cs 0 = n

/-- The texts of a whole number: digits, with one sign before them or none. -/
inductive Spells : List Char → Int → Prop where
  | unsigned {cs : List Char} {n : Nat} (h : Digits cs n) : Spells cs n
  | plus {cs : List Char} {n : Nat} (h : Digits cs n) : Spells ('+' :: cs) n
  | minus {cs : List Char} {n : Nat} (h : Digits cs n) : Spells ('-' :: cs) (-n)

end Decimal

/-- The numbers that values say, all of them of 64 bits with a sign. -/
inductive Value.Says : Value → Int → Prop where
  | int (i : Int) : Says (.int i) i
  | uint (n : Nat) (h : n < 2 ^ 63) : Says (.uint n) n
  /-- A whole double says the nearest number there is. -/
  | float (x : Float) (i : Int) (hfinite : (Decimal.Binary.ofFloat x).isFinite = true)
      (hvalue : (Decimal.Binary.ofFloat x).value = i) :
      Says (.float x) (max (-2 ^ 63) (min (2 ^ 63 - 1) i))
  | text (s : String) (i : Int) (h : Decimal.Spells (Text.trim s).toList i)
      (hrange : -2 ^ 63 ≤ i ∧ i < 2 ^ 63) : Says (.text s) i
  | bytes (b : List UInt8) (s : String) (i : Int) (hdecode : Text.Utf8.decode? b = some s)
      (h : Decimal.Spells (Text.trim s).toList i) (hrange : -2 ^ 63 ≤ i ∧ i < 2 ^ 63) :
      Says (.bytes b) i

namespace Row

/-- The first cell whose column is a `p`. -/
def First (row : Row) (p : String → Prop) (v : Value) : Prop :=
  ∃ before column after, row.cells = before ++ (column, v) :: after ∧ p column ∧
    ∀ cell ∈ before, ¬ p cell.1

/-- The cell that holds the count: its name counts letter by letter, else up to the case of ASCII
letters, and a row without such a name has its count in front. -/
inductive CountCell (row : Row) : Value → Prop where
  | exact {v : Value} (h : row.First (· = "row_count") v) : CountCell row v
  | folded {v : Value} (hnone : "row_count" ∉ row.columns)
      (h : row.First (·.toLower = "row_count") v) : CountCell row v
  | front {column : String} {v : Value} {after : List (String × Value)}
      (hnone : ∀ c ∈ row.columns, c.toLower ≠ "row_count")
      (h : row.cells = (column, v) :: after) : CountCell row v

end Row

/-- What the rows of an answer say: the number in the count cell of the first row, and 0 where there
is no number or a negative one. -/
inductive Select.Tells : List Row → Nat → Prop where
  | none : Tells [] 0
  | number {row : Row} {cell : Value} {n : Nat} (rest : List Row) (hcell : row.CountCell cell)
      (hn : cell.Says (n : Int)) : Tells (row :: rest) n
  | negative {row : Row} {cell : Value} {i : Int} (rest : List Row) (hcell : row.CountCell cell)
      (hi : cell.Says i) (hneg : i < 0) : Tells (row :: rest) 0
  | noNumber {row : Row} (rest : List Row)
      (h : ∀ cell i, row.CountCell cell → ¬ cell.Says i) : Tells (row :: rest) 0

/-! ## Numbers -/

namespace Decimal

theorem isDigit_eq (c : Char) : isDigit c = c.isDigit := rfl

theorem natural?_eq_some_iff {cs : List Char} {n : Nat} :
    natural? cs = some n ↔ Digits cs n := by
  have hguard : (cs.isEmpty || !cs.all isDigit) = false ↔ cs ≠ [] ∧ ∀ c ∈ cs, c.isDigit = true := by
    simp [isDigit_eq]
  unfold natural?
  constructor
  · intro h
    split at h
    · cases h
    · next hcs =>
      obtain ⟨hne, hdigits⟩ := hguard.1 (Bool.eq_false_iff.2 hcs)
      exact ⟨hne, hdigits, Option.some.inj h⟩
  · rintro ⟨hne, hdigits, hvalue⟩
    rw [hguard.2 ⟨hne, hdigits⟩]
    exact congrArg some hvalue

/-- Digits do not begin with a sign. -/
theorem Digits.head_isDigit {c : Char} {cs : List Char} {n : Nat} (h : Digits (c :: cs) n) :
    c.isDigit = true :=
  h.digits c (List.mem_cons_self ..)

theorem signed?_eq_some_iff {cs : List Char} {i : Int} : signed? cs = some i ↔ Spells cs i := by
  constructor
  · intro h
    unfold signed? at h
    split at h <;> obtain ⟨n, hn, rfl⟩ := Option.map_eq_some_iff.1 h <;>
      rw [natural?_eq_some_iff] at hn
    · exact .plus hn
    · exact .minus hn
    · exact .unsigned hn
  · intro h
    cases h with
    | @unsigned cs n h =>
      unfold signed?
      split
      · exact absurd h.head_isDigit (by decide)
      · exact absurd h.head_isDigit (by decide)
      · rw [natural?_eq_some_iff.2 h]
        rfl
    | plus h => exact congrArg (Option.map _) (natural?_eq_some_iff.2 h)
    | minus h => exact congrArg (Option.map _) (natural?_eq_some_iff.2 h)

theorem int64?_eq_some_iff {s : String} {i : Int} :
    int64? s = some i ↔ Spells s.toList i ∧ -2 ^ 63 ≤ i ∧ i < 2 ^ 63 := by
  have hfits : fitsInt64 i = true ↔ -2 ^ 63 ≤ i ∧ i < 2 ^ 63 := by
    rw [fitsInt64, Bool.and_eq_true, decide_eq_true_iff, decide_eq_true_iff]
    show -9223372036854775808 ≤ i ∧ i ≤ 9223372036854775807 ↔ _
    omega
  unfold int64?
  rw [Option.filter_eq_some_iff, signed?_eq_some_iff, hfits]

/-- A fraction of a power of two is whole when the power divides it. -/
theorem mul_zpow_neg_eq_iff {m k n : Nat} :
    (m : Rat) * 2 ^ (-(k : Int)) = n ↔ m % 2 ^ k = 0 ∧ m / 2 ^ k = n := by
  have hpos : (0 : Nat) < 2 ^ k := Nat.two_pow_pos k
  have hne : (2 : Rat) ^ k ≠ 0 := by positivity
  rw [zpow_neg, zpow_natCast, ← div_eq_mul_inv, div_eq_iff hne]
  norm_cast
  constructor
  · rintro rfl
    exact ⟨Nat.mul_mod_left n _, Nat.mul_div_cancel n hpos⟩
  · rintro ⟨hmod, rfl⟩
    exact (Nat.div_mul_cancel (Nat.dvd_of_mod_eq_zero hmod)).symm

theorem signed_eq_intCast_iff {negative : Bool} {r : Rat} (hr : 0 ≤ r) {i : Int} :
    signed negative r = i ↔ ∃ n : Nat, r = n ∧ (if negative then -(n : Int) else n) = i := by
  have hcast : ∀ n : Nat, signed negative n = ((if negative then -(n : Int) else n : Int) : Rat) := by
    intro n
    cases negative <;> simp [signed]
  constructor
  · intro h
    have habs : r = (i.natAbs : Rat) := by
      have hr' : r = |signed negative r| := by
        cases negative <;> simp [signed, abs_of_nonneg hr]
      rw [hr', h, Nat.cast_natAbs, Int.cast_abs]
    refine ⟨i.natAbs, habs, ?_⟩
    rw [habs, hcast] at h
    exact_mod_cast h
  · rintro ⟨n, rfl, rfl⟩
    exact hcast n

/-- A finite double is whole when its mantissa is, or loses no bit. -/
theorem Binary.integral?_eq_some_iff {b : Binary} {i : Int} :
    b.integral? = some i ↔ b.isFinite = true ∧ b.value = i := by
  cases b with
  | nan => simp [integral?, isFinite]
  | infinite negative => simp [integral?, isFinite]
  | finite negative m q =>
    have hvalue : 0 ≤ (m : Rat) * 2 ^ q := by positivity
    simp only [integral?, isFinite, value, true_and, signed_eq_intCast_iff hvalue]
    by_cases hq : 0 ≤ q
    · obtain ⟨k, rfl⟩ := Int.eq_ofNat_of_zero_le hq
      rw [if_pos hq, zpow_natCast]
      norm_cast
      simp
    · obtain ⟨k, rfl⟩ : ∃ k : Nat, q = -(k : Int) := ⟨q.natAbs, by omega⟩
      rw [if_neg hq]
      simp only [mul_zpow_neg_eq_iff]
      rw [neg_neg, Int.toNat_natCast, Nat.pow_eq]
      by_cases hmod : m % 2 ^ k = 0 <;> simp [hmod]

end Decimal

theorem Value.lt_two_pow_iff {n : Nat} : n < 2 ^ 63 ↔ (n : Int) ≤ Decimal.greatestInt64 := by
  show n < 9223372036854775808 ↔ (n : Int) ≤ 9223372036854775807
  omega

theorem Value.asInt?_eq_some_iff {v : Value} {i : Int} : v.asInt? = some i ↔ v.Says i := by
  constructor
  · intro h
    cases v with
    | int j =>
      cases h
      exact .int i
    | uint n =>
      have hfits : (if (n : Int) ≤ Decimal.greatestInt64 then some (n : Int) else none) = some i := h
      split at hfits
      · next hn =>
        cases hfits
        exact .uint n (lt_two_pow_iff.2 hn)
      · cases hfits
    | float x =>
      obtain ⟨j, hj, rfl⟩ := Option.map_eq_some_iff.1 h
      obtain ⟨hfinite, hvalue⟩ := Decimal.Binary.integral?_eq_some_iff.1 hj
      exact .float x j hfinite hvalue
    | text s =>
      obtain ⟨hs, hrange⟩ := Decimal.int64?_eq_some_iff.1 h
      exact .text s i hs hrange
    | bytes b =>
      obtain ⟨s, hdecode, hs⟩ := Option.bind_eq_some_iff.1 h
      obtain ⟨hs, hrange⟩ := Decimal.int64?_eq_some_iff.1 hs
      exact .bytes b s i hdecode hs hrange
    | null | bool | date | time | datetime | json | list => cases h
  · intro h
    cases h with
    | int => rfl
    | uint n h => exact if_pos (lt_two_pow_iff.1 h)
    | float x i hfinite hvalue =>
      exact congrArg (Option.map Decimal.clampInt64)
        (Decimal.Binary.integral?_eq_some_iff.2 ⟨hfinite, hvalue⟩)
    | text s i h hrange => exact Decimal.int64?_eq_some_iff.2 ⟨h, hrange⟩
    | bytes b s i hdecode h hrange =>
      exact Option.bind_eq_some_iff.2 ⟨s, hdecode, Decimal.int64?_eq_some_iff.2 ⟨h, hrange⟩⟩

/-! ## Cells -/

namespace Row

open Select (countColumn)

section

variable {row : Row} {p : String → Prop} {q : String × Value → Bool} {v : Value}

theorem first_iff (hq : ∀ cell, q cell = true ↔ p cell.1) :
    row.First p v ↔ (row.cells.find? q).map (·.2) = some v := by
  rw [Option.map_eq_some_iff]
  constructor
  · rintro ⟨before, column, after, hcells, hp, hbefore⟩
    refine ⟨(column, v), List.find?_eq_some_iff_append.2
      ⟨(hq _).2 hp, before, after, hcells, fun cell hcell => ?_⟩, rfl⟩
    rw [Bool.not_eq_true', Bool.eq_false_iff, ne_eq, hq]
    exact hbefore cell hcell
  · rintro ⟨⟨column, w⟩, hfind, rfl⟩
    obtain ⟨hp, before, after, hcells, hbefore⟩ := List.find?_eq_some_iff_append.1 hfind
    refine ⟨before, column, after, hcells, (hq _).1 hp, fun cell hcell => ?_⟩
    have hcell' := hbefore cell hcell
    rw [Bool.not_eq_true', Bool.eq_false_iff, ne_eq, hq] at hcell'
    exact hcell'

theorem first_none_iff (hq : ∀ cell, q cell = true ↔ p cell.1) :
    (∀ column ∈ row.columns, ¬ p column) ↔ (row.cells.find? q).map (·.2) = none := by
  rw [Option.map_eq_none_iff, List.find?_eq_none]
  simp only [columns, List.forall_mem_map, hq]

theorem sameFolded_iff (column : String) :
    Text.sameFolded column countColumn = true ↔ column.toLower = "row_count" := by
  have hlower : countColumn.toList.map Char.toLower = "row_count".toList := by decide
  rw [Text.sameFolded, beq_iff_eq, hlower, ← String.toList_inj]
  simp [String.toLower]

theorem get?_eq_or (row : Row) (column : String) : row.get? column
    = ((row.cells.find? fun cell => cell.1 == column).map (·.2)).or
      ((row.cells.find? fun cell => Text.sameFolded cell.1 column).map (·.2)) := by
  unfold get?
  cases row.cells.find? fun cell => cell.1 == column <;> rfl

theorem index?_zero_eq_some_iff :
    row.index? 0 = some v ↔ ∃ column after, row.cells = (column, v) :: after := by
  unfold index?
  cases row.cells with
  | nil => simp
  | cons cell after => simp [Prod.ext_iff]

/-- The cell that the count is read from. -/
theorem get?_or_index?_eq_some_iff :
    (row.get? countColumn <|> row.index? 0) = some v ↔ row.CountCell v := by
  have hexact : ∀ cell : String × Value, (cell.1 == countColumn) = true ↔ cell.1 = "row_count" :=
    fun _ => beq_iff_eq
  have hfolded : ∀ cell : String × Value,
      Text.sameFolded cell.1 countColumn = true ↔ cell.1.toLower = "row_count" :=
    fun cell => sameFolded_iff cell.1
  have hor : (row.get? countColumn <|> row.index? 0)
      = ((row.cells.find? fun cell => cell.1 == countColumn).map (·.2)).or
        (((row.cells.find? fun cell => Text.sameFolded cell.1 countColumn).map (·.2)).or
          (row.index? 0)) := by
    rw [get?_eq_or, ← Option.or_assoc]
    cases Option.or _ _ <;> rfl
  rw [hor, Option.or_eq_some_iff, Option.or_eq_some_iff,
    ← first_iff (p := (· = "row_count")) hexact, ← first_none_iff (p := (· = "row_count")) hexact,
    ← first_iff (p := (·.toLower = "row_count")) hfolded,
    ← first_none_iff (p := (·.toLower = "row_count")) hfolded, index?_zero_eq_some_iff]
  constructor
  · rintro (h | ⟨hnone, h | ⟨hnone', column, after, h⟩⟩)
    · exact .exact h
    · exact .folded (fun hmem => hnone _ hmem rfl) h
    · exact .front hnone' h
  · rintro (h | ⟨hnone, h⟩ | ⟨hnone, h⟩)
    · exact .inl h
    · refine .inr ⟨fun column hcolumn heq => hnone (heq ▸ hcolumn), .inl h⟩
    · refine .inr ⟨fun column hcolumn heq => hnone column hcolumn ?_, .inr ⟨hnone, _, _, h⟩⟩
      rw [heq]
      exact (sameFolded_iff countColumn).1 (beq_self_eq_true _)

end

end Row

namespace Select

/-- The rows of an answer tell one number, and it is the one that is read. -/
theorem tells_iff {rows : List Row} {n : Nat} : Tells rows n ↔ countOfRow rows.head? = n := by
  have hrow : ∀ row rest, countOfRow (row :: rest : List Row).head?
      = (((row.get? countColumn <|> row.index? 0).bind Value.asInt?).getD 0).toNat :=
    fun _ _ => rfl
  constructor
  · intro h
    cases h with
    | none => rfl
    | number rest hcell hn =>
      rw [hrow, Row.get?_or_index?_eq_some_iff.2 hcell, Option.bind_some,
        Value.asInt?_eq_some_iff.2 hn]
      rfl
    | negative rest hcell hi hneg =>
      rw [hrow, Row.get?_or_index?_eq_some_iff.2 hcell, Option.bind_some,
        Value.asInt?_eq_some_iff.2 hi]
      exact Int.toNat_of_nonpos (Int.le_of_lt hneg)
    | @noNumber row rest h =>
      have hnone : (row.get? countColumn <|> row.index? 0).bind Value.asInt? = none := by
        rw [Option.eq_none_iff_forall_ne_some]
        intro i hi
        obtain ⟨cell, hcell, hi⟩ := Option.bind_eq_some_iff.1 hi
        exact h cell i (Row.get?_or_index?_eq_some_iff.1 hcell) (Value.asInt?_eq_some_iff.1 hi)
      rw [hrow, hnone]
      rfl
  · rintro rfl
    cases rows with
    | nil => exact .none
    | cons row rest =>
      rw [hrow]
      cases hi : (row.get? countColumn <|> row.index? 0).bind Value.asInt? with
      | none =>
        refine .noNumber rest fun cell i hcell hsays => ?_
        rw [Row.get?_or_index?_eq_some_iff.2 hcell, Option.bind_some,
          Value.asInt?_eq_some_iff.2 hsays] at hi
        cases hi
      | some i =>
        obtain ⟨cell, hcell, hi⟩ := Option.bind_eq_some_iff.1 hi
        rw [Row.get?_or_index?_eq_some_iff] at hcell
        rw [Value.asInt?_eq_some_iff] at hi
        rw [Option.getD_some]
        rcases Int.lt_or_le i 0 with hneg | hpos
        · rw [Int.toNat_of_nonpos (by omega)]
          exact .negative rest hcell hi hneg
        · exact .number rest hcell (by rw [Int.toNat_of_nonneg hpos]; exact hi)

end Select

end SqlGateway
