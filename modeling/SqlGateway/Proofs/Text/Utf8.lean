import SqlGateway.Text.Utf8

/-!
# Octets that are a text

Octets that decode are the encoding of what they decode to: of one text there is
one such list of octets.  A reader that puts replacement characters for the rest
does not tell those apart.  A text can be cut behind an octet that ends a
character, and nowhere else.

    decode? bytes = some s   →   encode s = bytes
    isBoundary n s           iff   octet n is a position of s
-/

namespace SqlGateway.Text.Utf8

/-! ## Characters -/

/-- The first octets of longer characters, with the second octets that they ask for. -/
theorem opening?_eq_some {a least greatest more : Nat}
    (h : opening? a = some (least, greatest, more)) :
    more = 0 ∧ 0xC2 ≤ a ∧ a < 0xE0 ∧ least = 0x80 ∧ greatest = 0xBF ∨
    more = 1 ∧ 0xE0 ≤ a ∧ a < 0xF0 ∧ 0x80 ≤ least ∧ greatest ≤ 0xBF ∧
      (a = 0xE0 → least = 0xA0) ∧ (a = 0xED → greatest = 0x9F) ∨
    more = 2 ∧ 0xF0 ≤ a ∧ a ≤ 0xF4 ∧ 0x80 ≤ least ∧ greatest ≤ 0xBF ∧
      (a = 0xF0 → least = 0x90) ∧ (a = 0xF4 → greatest = 0x8F) := by
  unfold opening? at h
  repeat' split at h
  all_goals simp only [Option.some.injEq, Prod.mk.injEq, reduceCtorEq] at h
  all_goals omega

theorem toNat_ofNat {n : Nat} (h : n < 0xD800 ∨ 0xDFFF < n ∧ n < 0x110000) :
    (Char.ofNat n).val.toNat = n := by
  have hvalid : n.isValidChar := h
  unfold Char.ofNat
  rw [dif_pos hvalid]
  rfl

theorem ofNat_eq {n : Nat} {a : UInt8} (h : n = a.toNat) : UInt8.ofNat n = a := by
  rw [h, UInt8.ofNat_toNat]

theorem encode_one {a : UInt8} (h : a.toNat < 0x80) :
    String.utf8EncodeChar (Char.ofNat a.toNat) = [a] := by
  unfold String.utf8EncodeChar
  simp only [toNat_ofNat (show a.toNat < 0xD800 ∨ _ by omega)]
  rw [if_pos (by omega), ofNat_eq rfl]

theorem encode_two {a b : UInt8} (ha : 0xC2 ≤ a.toNat ∧ a.toNat < 0xE0)
    (hb : 0x80 ≤ b.toNat ∧ b.toNat ≤ 0xBF) :
    String.utf8EncodeChar (Char.ofNat (a.toNat % 32 * 64 + low b)) = [a, b] := by
  unfold String.utf8EncodeChar low
  simp only [toNat_ofNat (show a.toNat % 32 * 64 + b.toNat % 64 < 0xD800 ∨ _ by omega)]
  rw [if_neg (by omega), if_pos (by omega), ofNat_eq (show _ = a.toNat by omega),
    ofNat_eq (show _ = b.toNat by omega)]

theorem encode_three {a b c : UInt8} (ha : 0xE0 ≤ a.toNat ∧ a.toNat < 0xF0)
    (hb : 0x80 ≤ b.toNat ∧ b.toNat ≤ 0xBF) (hc : 0x80 ≤ c.toNat ∧ c.toNat ≤ 0xBF)
    (hleast : a.toNat = 0xE0 → 0xA0 ≤ b.toNat) (hgreatest : a.toNat = 0xED → b.toNat ≤ 0x9F) :
    String.utf8EncodeChar (Char.ofNat ((a.toNat % 16 * 64 + low b) * 64 + low c)) = [a, b, c] := by
  unfold String.utf8EncodeChar low
  simp only [toNat_ofNat (show (a.toNat % 16 * 64 + b.toNat % 64) * 64 + c.toNat % 64 < 0xD800 ∨ _
    by omega)]
  rw [if_neg (by omega), if_neg (by omega), if_pos (by omega), ofNat_eq (show _ = a.toNat by omega),
    ofNat_eq (show _ = b.toNat by omega), ofNat_eq (show _ = c.toNat by omega)]

theorem encode_four {a b c d : UInt8} (ha : 0xF0 ≤ a.toNat ∧ a.toNat ≤ 0xF4)
    (hb : 0x80 ≤ b.toNat ∧ b.toNat ≤ 0xBF) (hc : 0x80 ≤ c.toNat ∧ c.toNat ≤ 0xBF)
    (hd : 0x80 ≤ d.toNat ∧ d.toNat ≤ 0xBF) (hleast : a.toNat = 0xF0 → 0x90 ≤ b.toNat)
    (hgreatest : a.toNat = 0xF4 → b.toNat ≤ 0x8F) :
    String.utf8EncodeChar
        (Char.ofNat (((a.toNat % 8 * 64 + low b) * 64 + low c) * 64 + low d)) = [a, b, c, d] := by
  unfold String.utf8EncodeChar low
  simp only [toNat_ofNat (show ((a.toNat % 8 * 64 + b.toNat % 64) * 64 + c.toNat % 64) * 64
    + d.toNat % 64 < 0xD800 ∨ _ by omega)]
  rw [if_neg (by omega), if_neg (by omega), if_neg (by omega), ofNat_eq (show _ = a.toNat by omega),
    ofNat_eq (show _ = b.toNat by omega), ofNat_eq (show _ = c.toNat by omega),
    ofNat_eq (show _ = d.toNat by omega)]

theorem isContinuation_iff (b : UInt8) :
    isContinuation b = true ↔ 0x80 ≤ b.toNat ∧ b.toNat ≤ 0xBF := by
  simp [isContinuation]

/-! ## Texts -/

theorem none_cons_ne (ps : List (Option Char)) (cs : List Char) : none :: ps ≠ cs.map some := by
  cases cs <;> simp

/-- One character more, with the octets that it takes. -/
theorem flatMap_cons {c : Char} {ps : List (Option Char)} {cs : List Char}
    {front rest : List UInt8} (h : some c :: ps = cs.map some)
    (hfront : String.utf8EncodeChar c = front)
    (hrest : ∀ {cs : List Char}, ps = cs.map some → cs.flatMap String.utf8EncodeChar = rest) :
    cs.flatMap String.utf8EncodeChar = front ++ rest := by
  cases cs with
  | nil => cases h
  | cons c' cs =>
    obtain ⟨hc, hps⟩ := List.cons.inj h
    cases hc
    rw [List.flatMap_cons, hfront, hrest hps]

theorem flatMap_of_pieces {bytes : List UInt8} {cs : List Char}
    (h : pieces bytes = cs.map some) : cs.flatMap String.utf8EncodeChar = bytes := by
  fun_induction pieces bytes generalizing cs with
  | case1 =>
    rw [List.map_eq_nil_iff.1 h.symm]
    rfl
  | case2 a rest ha ih => exact flatMap_cons h (encode_one ha) ih
  | case6 a ha least greatest b rest hb hopening ih =>
    have hspec := opening?_eq_some hopening
    refine flatMap_cons h (encode_two ?_ ?_) ih <;> omega
  | case8 a ha least greatest b hb c rest hc hopening ih =>
    have hspec := opening?_eq_some hopening
    rw [isContinuation_iff] at hc
    refine flatMap_cons h (encode_three ?_ ?_ hc ?_ ?_) ih <;> omega
  | case12 a ha least greatest more hopening b hb c hc d rest hd hzero hone ih =>
    have hspec := opening?_eq_some hopening
    have hmore : more ≠ 0 ∧ more ≠ 1 := ⟨hzero, hone⟩
    rw [isContinuation_iff] at hc hd
    refine flatMap_cons h (encode_four ?_ ?_ hc hd ?_ ?_) ih <;> omega
  -- Every other run of octets is no character.
  | case3 | case4 | case5 | case7 | case9 | case10 | case11 | case13 | case14 =>
    exact absurd h (none_cons_ne _ _)

theorem eq_map_some_of_mapM {ps : List (Option Char)} {cs : List Char}
    (h : ps.mapM id = some cs) : ps = cs.map some := by
  induction ps generalizing cs with
  | nil =>
    cases h
    rfl
  | cons p ps ih =>
    rw [List.mapM_cons] at h
    obtain ⟨c, hc, hrest⟩ := Option.bind_eq_some_iff.1 h
    obtain ⟨cs', hcs', heq⟩ := Option.bind_eq_some_iff.1 hrest
    cases heq
    rw [List.map_cons, ← ih hcs']
    exact congrArg (· :: ps) hc

theorem pieces_of_decode? {bytes : List UInt8} {s : String} (h : decode? bytes = some s) :
    pieces bytes = s.toList.map some := by
  obtain ⟨cs, hcs, rfl⟩ := Option.map_eq_some_iff.1 h
  rw [String.toList_ofList]
  exact eq_map_some_of_mapM hcs

/-- Octets that decode encode what they decode to. -/
theorem encode_of_decode? {bytes : List UInt8} {s : String} (h : decode? bytes = some s) :
    encode s = bytes :=
  flatMap_of_pieces (pieces_of_decode? h)

/-- Nothing is replaced in octets that decode. -/
theorem lossy_of_decode? {bytes : List UInt8} {s : String} (h : decode? bytes = some s) :
    lossy bytes = s := by
  unfold lossy
  rw [pieces_of_decode? h, List.map_map]
  have hid : ((fun p : Option Char => p.getD (Char.ofNat 0xFFFD)) ∘ some) = id := rfl
  rw [hid, List.map_id, String.ofList_toList]

/-- **One list of octets a text.**  Octets that decode are told apart by what is read for them. -/
theorem lossy_inj {bytes bytes' : List UInt8} (h : (decode? bytes).isSome)
    (h' : (decode? bytes').isSome) (heq : lossy bytes = lossy bytes') : bytes = bytes' := by
  obtain ⟨s, hs⟩ := Option.isSome_iff_exists.1 h
  obtain ⟨s', hs'⟩ := Option.isSome_iff_exists.1 h'
  rw [lossy_of_decode? hs, lossy_of_decode? hs'] at heq
  rw [← encode_of_decode? hs, heq, encode_of_decode? hs']

/-! ## Boundaries -/

theorem isBoundary_go_iff (n : Nat) (cs : List Char) :
    isBoundary.go n cs = true ↔
      ∃ front back, cs = front ++ back ∧ (String.ofList front).utf8ByteSize = n := by
  have hsize : ∀ (c : Char) (front : List Char),
      (String.ofList (c :: front)).utf8ByteSize = c.utf8Size + (String.ofList front).utf8ByteSize := by
    intro c front
    rw [String.ofList_cons, String.utf8ByteSize_append, String.utf8ByteSize_singleton]
  fun_induction isBoundary.go n cs with
  | case1 cs => exact iff_of_true rfl ⟨[], cs, rfl, by simp⟩
  | case2 n =>
    simp only [Bool.false_eq_true, false_iff]
    rintro ⟨front, back, hcs, hn⟩
    rw [(List.append_eq_nil_iff.1 hcs.symm).1, String.ofList_nil, String.utf8ByteSize_empty] at hn
    omega
  | case3 n c cs hfits ih =>
    refine ih.trans ?_
    constructor
    · rintro ⟨front, back, rfl, hn⟩
      exact ⟨c :: front, back, rfl, by rw [hsize, hn, Nat.add_sub_cancel' hfits]⟩
    · rintro ⟨front, back, hcs, hn⟩
      cases front with
      | nil =>
        rw [String.ofList_nil, String.utf8ByteSize_empty] at hn
        omega
      | cons c' front =>
        obtain ⟨rfl, rfl⟩ := List.cons.inj hcs
        rw [hsize] at hn
        exact ⟨front, back, rfl, Nat.eq_sub_of_add_eq' hn⟩
  | case4 n c cs hlong =>
    simp only [Bool.false_eq_true, false_iff]
    rintro ⟨front, back, hcs, hn⟩
    cases front with
    | nil =>
      rw [String.ofList_nil, String.utf8ByteSize_empty] at hn
      omega
    | cons c' front =>
      obtain ⟨rfl, -⟩ := List.cons.inj hcs
      rw [hsize] at hn
      omega

/-- Characters end where a text can be cut: some front of it takes so many octets. -/
theorem isBoundary_iff_append (n : Nat) (s : String) :
    isBoundary n s = true ↔ ∃ front back, s = front ++ back ∧ front.utf8ByteSize = n := by
  unfold isBoundary
  rw [isBoundary_go_iff]
  constructor
  · rintro ⟨front, back, hs, hn⟩
    refine ⟨.ofList front, .ofList back, ?_, hn⟩
    rw [← String.ofList_append, ← hs, String.ofList_toList]
  · rintro ⟨front, back, rfl, hn⟩
    exact ⟨front.toList, back.toList, String.toList_append, by rw [String.ofList_toList, hn]⟩

/-- A boundary is a position of the text. -/
theorem isBoundary_iff (n : Nat) (s : String) :
    isBoundary n s = true ↔ String.Pos.Raw.IsValid s ⟨n⟩ := by
  rw [isBoundary_iff_append, String.Pos.Raw.isValid_iff_exists_append]
  constructor
  · rintro ⟨front, back, hs, rfl⟩
    exact ⟨front, back, hs, rfl⟩
  · rintro ⟨front, back, hs, hn⟩
    exact ⟨front, back, hs, (congrArg String.Pos.Raw.byteIdx hn).symm⟩

end SqlGateway.Text.Utf8
