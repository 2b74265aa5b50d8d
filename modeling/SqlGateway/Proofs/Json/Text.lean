import SqlGateway.Json.Parser
import SqlGateway.Json.Printer
import SqlGateway.Proofs.Decimal.Text

/-!
# JSON by its text

A text that `compact` writes is that of one value.  The first character tells the
form of the value; a string ends at the first quote that is not escaped, a number
before the first character that numbers do not have, and a list at its bracket.

    chars a ++ rest = chars b ++ rest'   →   a = b and rest = rest'
-/

namespace SqlGateway.Json

open SqlGateway.Decimal (Binary Layout isDigit)

/-! ## Algorithm -/

mutual

/-- The doubles in it are numbers. -/
def IsFinite : Json → Prop
  | .number (.float x) => (Binary.ofFloat x).isFinite = true
  | .array items => ItemsFinite items
  | .object members => MembersFinite members
  | _ => True

def ItemsFinite : List Json → Prop
  | [] => True
  | x :: xs => IsFinite x ∧ ItemsFinite xs

def MembersFinite : List (String × Json) → Prop
  | [] => True
  | (_, v) :: ms => IsFinite v ∧ MembersFinite ms

end

/-- What a value is, but for its parts. -/
inductive Form where
  | null
  | bool
  | number
  | string
  | array
  | object

def form : Json → Form
  | .null => .null
  | .bool _ => .bool
  | .number _ => .number
  | .string _ => .string
  | .array _ => .array
  | .object _ => .object

/-- The form of a value whose text begins with this character. -/
def Form.ofChar (c : Char) : Form :=
  if c = 'n' then .null
  else if c = 't' ∨ c = 'f' then .bool
  else if c = '\x22' then .string
  else if c = '[' then .array
  else if c = '\x7b' then .object
  else .number

/-- A character that numbers are written with. -/
def isNumeral (c : Char) : Bool :=
  isDigit c || c == '-' || c == '+' || c == '.' || c == 'e'

/-- What can follow a value in a text. -/
def Follows (rest : List Char) : Prop :=
  ∀ c ∈ rest.head?, isNumeral c = false

/-! ## Strings -/

theorem bind_scan? (p : Piece) (rest : List Char) :
    (do
      let (pieces, rest) ← Piece.scan? rest
      return (p :: pieces, rest))
      = (Piece.scan? rest).map fun r => (p :: r.1, r.2) := by
  cases Piece.scan? rest <;> rfl

theorem toNat?_control : ∀ n < 32, Text.Hex.toNat? ['0', '0', Text.Hex.digit .lower (n / 16),
    Text.Hex.digit .lower (n % 16)] = some n := by
  decide

/-- A character is read back from its escape. -/
theorem scan?_escapeChar (c : Char) (rest : List Char) : ∃ p,
    Piece.scan? (escapeChar c ++ rest) = (Piece.scan? rest).map (fun r => (p :: r.1, r.2)) ∧
      ∀ ps, Piece.join? (p :: ps) = (Piece.join? ps).map (c :: ·) := by
  have hnamed : ∀ e, Piece.scan? ('\\' :: e :: rest)
        = (Piece.scan? rest).map (fun r => (.char c :: r.1, r.2)) → ∃ p,
      Piece.scan? (['\\', e] ++ rest) = (Piece.scan? rest).map (fun r => (p :: r.1, r.2)) ∧
        ∀ ps, Piece.join? (p :: ps) = (Piece.join? ps).map (c :: ·) :=
    fun e h => ⟨.char c, h, fun _ => rfl⟩
  unfold escapeChar
  split
  · next h => subst h; exact hnamed _ (bind_scan? (.char '\x22') rest)
  split
  · next h => subst h; exact hnamed _ (bind_scan? (.char '\\') rest)
  split
  · next h => subst h; exact hnamed _ (bind_scan? (.char '\x08') rest)
  split
  · next h => subst h; exact hnamed _ (bind_scan? (.char '\t') rest)
  split
  · next h => subst h; exact hnamed _ (bind_scan? (.char '\n') rest)
  split
  · next h => subst h; exact hnamed _ (bind_scan? (.char '\x0c') rest)
  split
  · next h => subst h; exact hnamed _ (bind_scan? (.char '\r') rest)
  split
  · next hcontrol =>
    refine ⟨.unit c.toNat, ?_, ?_⟩
    · simp only [List.cons_append, List.nil_append]
      rw [Piece.scan?, toNat?_control c.toNat hcontrol]
      exact bind_scan? (.unit c.toNat) rest
    · intro ps
      have hhigh : Piece.isHighSurrogate c.toNat = false := by
        unfold Piece.isHighSurrogate
        simp only [Bool.and_eq_false_iff, decide_eq_false_iff_not]
        omega
      have hlow : Piece.isLowSurrogate c.toNat = false := by
        unfold Piece.isLowSurrogate
        simp only [Bool.and_eq_false_iff, decide_eq_false_iff_not]
        omega
      rw [Piece.join?.eq_def]
      simp only [hhigh, hlow, Bool.false_eq_true, if_false, Char.ofNat_toNat]
  · next hquote hslash _ _ _ _ _ hplain =>
    refine ⟨.char c, ?_, fun _ => rfl⟩
    rw [List.singleton_append, Piece.scan?.eq_def]
    split
    · next heq => cases heq
    · next heq => exact absurd (List.cons.inj heq).1 hquote
    · next heq => exact absurd (List.cons.inj heq).1 hslash
    · next heq => exact absurd (List.cons.inj heq).1 hslash
    · next heq =>
      cases heq
      rw [if_neg (by simp only [not_or]; exact ⟨hplain, hslash⟩)]
      exact bind_scan? (.char c) rest

theorem string?_flatMap (cs rest : List Char) :
    string? (cs.flatMap escapeChar ++ '\x22' :: rest) = some (.ofList cs, rest) := by
  have hpieces : ∃ pieces, Piece.scan? (cs.flatMap escapeChar ++ '\x22' :: rest)
      = some (pieces, rest) ∧ Piece.join? pieces = some cs := by
    induction cs with
    | nil => exact ⟨[], rfl, rfl⟩
    | cons c cs ih =>
      obtain ⟨pieces, hscan, hjoin⟩ := ih
      obtain ⟨p, hp, hjoinp⟩ := scan?_escapeChar c (cs.flatMap escapeChar ++ '\x22' :: rest)
      refine ⟨p :: pieces, ?_, ?_⟩
      · rw [List.flatMap_cons, List.append_assoc, hp, hscan]
        rfl
      · rw [hjoinp, hjoin]
        rfl
  obtain ⟨pieces, hscan, hjoin⟩ := hpieces
  unfold string?
  rw [hscan]
  show (Piece.join? pieces >>= _) = _
  rw [hjoin]
  rfl

/-- A string ends with its quote. -/
theorem quoted_append_inj {s t : String} {rest rest' : List Char}
    (h : quoted s ++ rest = quoted t ++ rest') : s = t ∧ rest = rest' := by
  have hread : ∀ (s : String) rest, quoted s ++ rest
      = '\x22' :: (s.toList.flatMap escapeChar ++ '\x22' :: rest) := by
    intro s rest
    simp [quoted]
  rw [hread, hread] at h
  have hstring := congrArg string? (List.cons.inj h).2
  rw [string?_flatMap, string?_flatMap, String.ofList_toList, String.ofList_toList] at hstring
  cases hstring
  exact ⟨rfl, rfl⟩

/-! ## Numbers -/

theorem isNumeral_of_isDigit {c : Char} (h : isDigit c = true) : isNumeral c = true := by
  simp [isNumeral, h]

theorem isNumeral_signChars (negative : Bool) :
    ∀ c ∈ Decimal.signChars negative, isNumeral c = true := by
  unfold Decimal.signChars
  split
  · exact List.forall_mem_singleton.2 rfl
  · exact nofun

theorem isNumeral_toDigits (n : Nat) : ∀ c ∈ Nat.toDigits 10 n, isNumeral c = true := by
  intro c hc
  exact isNumeral_of_isDigit (Sql.isDigit_toDigits n c hc)

theorem isNumeral_replicate (n : Nat) : ∀ c ∈ List.replicate n '0', isNumeral c = true := by
  intro c hc
  exact isNumeral_of_isDigit (Decimal.isDigit_replicate_zero n c hc)

theorem isNumeral_positionalChars (pointZero : Bool) {digits : List Char} (k : Int)
    (h : ∀ c ∈ digits, isNumeral c = true) :
    ∀ c ∈ Decimal.positionalChars pointZero digits k, isNumeral c = true := by
  unfold Decimal.positionalChars
  simp only
  split
  · simp only [List.forall_mem_append]
    refine ⟨⟨h, isNumeral_replicate _⟩, ?_⟩
    split
    · exact List.forall_mem_cons.2 ⟨rfl, List.forall_mem_singleton.2 rfl⟩
    · exact nofun
  · split
    · rw [List.forall_mem_append, List.forall_mem_cons]
      exact ⟨fun c hc => h c (List.mem_of_mem_take hc), rfl,
        fun c hc => h c (List.mem_of_mem_drop hc)⟩
    · rw [List.forall_mem_append, List.forall_mem_cons, List.forall_mem_cons]
      exact ⟨⟨rfl, rfl, isNumeral_replicate _⟩, h⟩

theorem isNumeral_scientificChars (plus : Bool) {digits : List Char} (k : Int)
    (h : ∀ c ∈ digits, isNumeral c = true) :
    ∀ c ∈ Decimal.scientificChars plus digits k, isNumeral c = true := by
  have hsign : ∀ (negative : Prop) [Decidable negative], ∀ c ∈ (if negative then ['-']
      else if plus then ['+'] else []), isNumeral c = true := by
    intro negative _
    split
    · exact List.forall_mem_singleton.2 rfl
    · split
      · exact List.forall_mem_singleton.2 rfl
      · exact nofun
  unfold Decimal.scientificChars
  rcases digits with _ | ⟨d, _ | ⟨d', rest⟩⟩
  · simp only [List.forall_mem_append, List.forall_mem_cons]
    exact ⟨⟨h, rfl, hsign _⟩, isNumeral_toDigits _⟩
  · simp only [List.forall_mem_append, List.forall_mem_cons]
    exact ⟨⟨List.forall_mem_cons.1 h, rfl, hsign _⟩, isNumeral_toDigits _⟩
  · simp only [List.forall_mem_append, List.forall_mem_cons]
    obtain ⟨hd, hrest⟩ := List.forall_mem_cons.1 h
    exact ⟨⟨⟨hd, rfl, List.forall_mem_cons.1 hrest⟩, rfl, hsign _⟩, isNumeral_toDigits _⟩

theorem isNumeral_magnitudeChars (layout : Layout) (n : Nat) (k : Int) :
    ∀ c ∈ Decimal.magnitudeChars layout n k, isNumeral c = true := by
  unfold Decimal.magnitudeChars
  simp only
  split
  · exact isNumeral_positionalChars _ _ (isNumeral_toDigits n)
  · exact isNumeral_scientificChars _ _ (isNumeral_toDigits n)

/-- In the interchange layout no double looks like a whole number. -/
theorem exists_mark (n : Nat) (k : Int) :
    ∃ c ∈ Decimal.magnitudeChars .interchange n k, c = '.' ∨ c = 'e' := by
  unfold Decimal.magnitudeChars
  simp only
  split
  · refine ⟨'.', ?_, .inl rfl⟩
    unfold Decimal.positionalChars
    simp only [Layout.interchange]
    split
    · simp
    · split <;> simp
  · refine ⟨'e', ?_, .inr rfl⟩
    unfold Decimal.scientificChars
    simp

theorem text_float {x : Float} (h : (Binary.ofFloat x).isFinite = true) :
    (Number.float x).text = Decimal.write .interchange x :=
  if_pos h

theorem toList_text_float {x : Float} (h : (Binary.ofFloat x).isFinite = true) :
    ∃ negative n k, (Number.float x).text.toList
      = Decimal.signChars negative ++ Decimal.magnitudeChars .interchange n k := by
  rw [text_float h, Decimal.write, String.toList_ofList]
  cases hx : Binary.ofFloat x with
  | nan => rw [hx] at h; cases h
  | infinite negative => rw [hx] at h; cases h
  | finite negative m q => exact ⟨negative, _, _, rfl⟩

/-- A number is written with digits, signs, a point and an exponent mark, and begins with a digit
or a minus sign. -/
theorem numeral_text {n : Number} (h : IsFinite (.number n)) :
    (∀ c ∈ n.text.toList, isNumeral c = true) ∧
      ∃ c cs, n.text.toList = c :: cs ∧ (isDigit c = true ∨ c = '-') := by
  have hsigned : ∀ negative xs, (∀ c ∈ xs, isNumeral c = true) →
      (∃ c cs, xs = c :: cs ∧ isDigit c = true) →
      (∀ c ∈ Decimal.signChars negative ++ xs, isNumeral c = true) ∧
        ∃ c cs, Decimal.signChars negative ++ xs = c :: cs ∧ (isDigit c = true ∨ c = '-') := by
    rintro negative xs hxs ⟨c, cs, rfl, hc⟩
    refine ⟨List.forall_mem_append.2 ⟨isNumeral_signChars negative, hxs⟩, ?_⟩
    cases negative with
    | false => exact ⟨c, cs, rfl, .inl hc⟩
    | true => exact ⟨'-', c :: cs, rfl, .inr rfl⟩
  cases n with
  | int i =>
    show (∀ c ∈ (Decimal.ofInt i).toList, _) ∧ ∃ c cs, (Decimal.ofInt i).toList = _ ∧ _
    rw [Decimal.toList_ofInt]
    exact hsigned _ _ (isNumeral_toDigits _) (Decimal.exists_toDigits _)
  | float x =>
    obtain ⟨negative, m, k, htext⟩ := toList_text_float h
    rw [htext]
    exact hsigned _ _ (isNumeral_magnitudeChars _ _ _) (Decimal.exists_magnitudeChars _ _ _)

theorem text_int_ne_float {i : Int} {x : Float} (hx : (Binary.ofFloat x).isFinite = true) :
    (Number.int i).text.toList ≠ (Number.float x).text.toList := by
  intro h
  obtain ⟨negative, n, k, hfloat⟩ := toList_text_float hx
  obtain ⟨c, hc, hmark⟩ := exists_mark n k
  have hmem : c ∈ (Number.float x).text.toList := by
    rw [hfloat]
    exact List.mem_append_right _ hc
  have hint : (Number.int i).text.toList = _ := Decimal.toList_ofInt i
  rw [← h, hint] at hmem
  rcases List.mem_append.1 hmem with hsign | hdigit
  · have hdash : c = '-' := by
      unfold Decimal.signChars at hsign
      split at hsign
      · exact List.mem_singleton.1 hsign
      · cases hsign
    subst hdash
    rcases hmark with hmark | hmark <;> cases hmark
  · have hdigit := Sql.isDigit_toDigits _ c hdigit
    rcases hmark with rfl | rfl <;> cases hdigit

theorem text_inj {m n : Number} (hm : IsFinite (.number m)) (hn : IsFinite (.number n))
    (h : m.text.toList = n.text.toList) : m = n := by
  cases m with
  | int i =>
    cases n with
    | int j => rw [Decimal.ofInt_inj (String.toList_injective h)]
    | float y => exact absurd h (text_int_ne_float hn)
  | float x =>
    cases n with
    | int j => exact absurd h.symm (text_int_ne_float hm)
    | float y =>
      have hx : (Binary.ofFloat x).isFinite = true := hm
      have hy : (Binary.ofFloat y).isFinite = true := hn
      have hnan : Binary.ofFloat x ≠ .nan := by
        intro heq
        rw [heq] at hx
        cases hx
      have htext := String.toList_injective h
      rw [text_float hx, text_float hy] at htext
      rw [Decimal.write_inj .interchange hnan htext]

/-- A number ends where its characters do. -/
theorem text_append_inj {m n : Number} {rest rest' : List Char} (hm : IsFinite (.number m))
    (hn : IsFinite (.number n)) (hr : Follows rest) (hr' : Follows rest')
    (h : m.text.toList ++ rest = n.text.toList ++ rest') : m = n ∧ rest = rest' := by
  obtain ⟨htake, hdrop⟩ := Sql.takeWhile_append_of_head (numeral_text hm).1 hr
  obtain ⟨htake', hdrop'⟩ := Sql.takeWhile_append_of_head (numeral_text hn).1 hr'
  refine ⟨text_inj hm hn ?_, ?_⟩
  · rw [← htake, ← htake', h]
  · rw [← hdrop, ← hdrop', h]

/-! ## Values -/

/-- The first character of a text tells the form of the value, and is not the end of a list. -/
theorem exists_chars {j : Json} (h : j.IsFinite) :
    ∃ c cs, chars j = c :: cs ∧ Form.ofChar c = j.form ∧ c ≠ ']' := by
  cases j with
  | null => exact ⟨_, _, rfl, rfl, by decide⟩
  | bool b => cases b <;> exact ⟨_, _, rfl, rfl, by decide⟩
  | string s => exact ⟨_, _, rfl, rfl, by decide⟩
  | array items => cases items <;> exact ⟨_, _, rfl, rfl, by decide⟩
  | object members => rcases members with _ | ⟨⟨k, v⟩, ms⟩ <;> exact ⟨_, _, rfl, rfl, by decide⟩
  | number n =>
    obtain ⟨c, cs, htext, hc⟩ := (numeral_text h).2
    refine ⟨c, cs, htext, ?_⟩
    rcases hc with hdigit | rfl
    · have hne : ∀ e, isDigit e = false → c ≠ e := by
        rintro e he rfl
        cases he.symm.trans hdigit
      unfold Form.ofChar
      simp [hne _ (show isDigit 'n' = false from rfl), hne _ (show isDigit 't' = false from rfl),
        hne _ (show isDigit 'f' = false from rfl), hne _ (show isDigit '\x22' = false from rfl),
        hne _ (show isDigit '[' = false from rfl), hne _ (show isDigit '\x7b' = false from rfl),
        hne _ (show isDigit ']' = false from rfl), form]
    · exact ⟨rfl, by decide⟩

theorem form_eq_of_chars {a b : Json} {rest rest' : List Char} (ha : a.IsFinite)
    (hb : b.IsFinite) (h : chars a ++ rest = chars b ++ rest') : a.form = b.form := by
  obtain ⟨c, cs, hca, hforma, -⟩ := exists_chars ha
  obtain ⟨d, ds, hcb, hformb, -⟩ := exists_chars hb
  rw [hca, hcb] at h
  rw [← hforma, ← hformb, (List.cons.inj h).1]

theorem follows_nil : Follows [] := by
  intro c hc
  cases hc

theorem follows_itemChars (xs : List Json) (rest : List Char) :
    Follows (itemChars xs ++ ']' :: rest) := by
  intro c hc
  cases xs <;> cases hc <;> rfl

theorem follows_memberChars (ms : List (String × Json)) (rest : List Char) :
    Follows (memberChars ms ++ '\x7d' :: rest) := by
  intro c hc
  rcases ms with _ | ⟨⟨k, v⟩, ms⟩ <;> cases hc <;> rfl

mutual

/-- The text of a value ends where the value does. -/
theorem chars_append_inj (a b : Json) {rest rest' : List Char} (ha : a.IsFinite) (hb : b.IsFinite)
    (hr : Follows rest) (hr' : Follows rest') (h : chars a ++ rest = chars b ++ rest') :
    a = b ∧ rest = rest' := by
  have hform := form_eq_of_chars ha hb h
  cases a with
  | null =>
    cases b with
    | null => exact ⟨rfl, List.append_cancel_left h⟩
    | _ => cases hform
  | bool p =>
    cases b with
    | bool q =>
      cases p <;> cases q
      · exact ⟨rfl, List.append_cancel_left h⟩
      · cases (List.cons.inj h).1
      · cases (List.cons.inj h).1
      · exact ⟨rfl, List.append_cancel_left h⟩
    | _ => cases hform
  | number m =>
    cases b with
    | number n =>
      obtain ⟨rfl, hrest⟩ := text_append_inj ha hb hr hr' h
      exact ⟨rfl, hrest⟩
    | _ => cases hform
  | string s =>
    cases b with
    | string t =>
      obtain ⟨rfl, hrest⟩ := quoted_append_inj h
      exact ⟨rfl, hrest⟩
    | _ => cases hform
  | array xs =>
    cases b with
    | array ys =>
      cases xs with
      | nil =>
        cases ys with
        | nil => exact ⟨rfl, (List.cons.inj (List.cons.inj h).2).2⟩
        | cons y ys =>
          obtain ⟨c, cs, hy, -, hne⟩ := exists_chars hb.1
          have htail : ']' :: rest = chars y ++ (itemChars ys ++ ']' :: rest') := by
            simpa [chars] using h
          rw [hy] at htail
          exact absurd (List.cons.inj htail).1.symm hne
      | cons x xs =>
        cases ys with
        | nil =>
          obtain ⟨c, cs, hx, -, hne⟩ := exists_chars ha.1
          have htail : chars x ++ (itemChars xs ++ ']' :: rest) = ']' :: rest' := by
            simpa [chars] using h
          rw [hx] at htail
          exact absurd (List.cons.inj htail).1 hne
        | cons y ys =>
          have hitems : itemChars (x :: xs) ++ ']' :: rest = itemChars (y :: ys) ++ ']' :: rest' := by
            simpa [chars, itemChars] using h
          obtain ⟨hlist, hrest⟩ := itemChars_append_inj (x :: xs) (y :: ys) ha hb hitems
          exact ⟨congrArg array hlist, hrest⟩
    | _ => cases hform
  | object ms =>
    cases b with
    | object ns =>
      rcases ms with _ | ⟨⟨k, v⟩, ms⟩
      · rcases ns with _ | ⟨⟨l, w⟩, ns⟩
        · exact ⟨rfl, (List.cons.inj (List.cons.inj h).2).2⟩
        · cases (List.cons.inj (List.cons.inj h).2).1
      · rcases ns with _ | ⟨⟨l, w⟩, ns⟩
        · cases (List.cons.inj (List.cons.inj h).2).1
        · have hmembers : memberChars ((k, v) :: ms) ++ '\x7d' :: rest
              = memberChars ((l, w) :: ns) ++ '\x7d' :: rest' := by
            simpa [chars, memberChars] using h
          obtain ⟨hlist, hrest⟩ :=
            memberChars_append_inj ((k, v) :: ms) ((l, w) :: ns) ha hb hmembers
          exact ⟨congrArg object hlist, hrest⟩
    | _ => cases hform

theorem itemChars_append_inj (xs ys : List Json) {rest rest' : List Char} (hx : ItemsFinite xs)
    (hy : ItemsFinite ys) (h : itemChars xs ++ ']' :: rest = itemChars ys ++ ']' :: rest') :
    xs = ys ∧ rest = rest' := by
  cases xs with
  | nil =>
    cases ys with
    | nil => exact ⟨rfl, (List.cons.inj h).2⟩
    | cons y ys => cases (List.cons.inj h).1
  | cons x xs =>
    cases ys with
    | nil => cases (List.cons.inj h).1
    | cons y ys =>
      have htail : chars x ++ (itemChars xs ++ ']' :: rest)
          = chars y ++ (itemChars ys ++ ']' :: rest') := by
        simpa [itemChars] using h
      obtain ⟨rfl, hitems⟩ := chars_append_inj x y hx.1 hy.1 (follows_itemChars xs rest)
        (follows_itemChars ys rest') htail
      obtain ⟨rfl, hrest⟩ := itemChars_append_inj xs ys hx.2 hy.2 hitems
      exact ⟨rfl, hrest⟩

theorem memberChars_append_inj (ms ns : List (String × Json)) {rest rest' : List Char}
    (hm : MembersFinite ms) (hn : MembersFinite ns)
    (h : memberChars ms ++ '\x7d' :: rest = memberChars ns ++ '\x7d' :: rest') :
    ms = ns ∧ rest = rest' := by
  rcases ms with _ | ⟨⟨k, v⟩, ms⟩
  · rcases ns with _ | ⟨⟨l, w⟩, ns⟩
    · exact ⟨rfl, (List.cons.inj h).2⟩
    · cases (List.cons.inj h).1
  · rcases ns with _ | ⟨⟨l, w⟩, ns⟩
    · cases (List.cons.inj h).1
    · have htail : quoted k ++ ':' :: (chars v ++ (memberChars ms ++ '\x7d' :: rest))
          = quoted l ++ ':' :: (chars w ++ (memberChars ns ++ '\x7d' :: rest')) := by
        simpa [memberChars] using h
      obtain ⟨rfl, hvalue⟩ := quoted_append_inj htail
      obtain ⟨rfl, hmembers⟩ := chars_append_inj v w hm.1 hn.1 (follows_memberChars ms rest)
        (follows_memberChars ns rest') (List.cons.inj hvalue).2
      obtain ⟨rfl, hrest⟩ := memberChars_append_inj ms ns hm.2 hn.2 hmembers
      exact ⟨rfl, hrest⟩

end

/-- **One value a text.**  Values whose doubles are numbers are told apart by their texts. -/
theorem compact_inj {a b : Json} (ha : a.IsFinite) (hb : b.IsFinite)
    (h : a.compact = b.compact) : a = b := by
  have hchars : chars a ++ [] = chars b ++ [] := by
    rw [List.append_nil, List.append_nil]
    exact String.ofList_injective h
  exact (chars_append_inj a b ha hb follows_nil follows_nil hchars).1

end SqlGateway.Json
