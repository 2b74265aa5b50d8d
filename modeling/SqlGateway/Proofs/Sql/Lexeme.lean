import SqlGateway.Proofs.Sql.Phrase

/-!
# Tokens before a break

No token goes on over a blank, a comma or a closing parenthesis that stands
outside quotes.  So the token at the start of a text stays as it is when such a
character and more follow the text.

    next? d cs = (t, after)  →  next? d (cs ++ ' ' :: more) = (t, after ++ ' ' :: more)
-/

namespace SqlGateway.Sql

/-- A blank, a comma or a closing parenthesis. -/
def isBreak (c : Char) : Bool :=
  c.isWhitespace || c = ',' || c = ')'

/-- What `isBreak` leaves out: characters that a token of some kind goes on with. -/
structure Breaks (c : Char) : Prop where
  word : isWordChar c = false
  symbol : isSymbolChar c = false
  digit : Decimal.isDigit c = false
  hex : (Text.Hex.digit? c).isSome = false
  point : c ≠ '.'
  minus : c ≠ '-'
  hexMark : c ≠ 'x'

theorem breaks_of_isBreak {c : Char} (h : isBreak c = true) : Breaks c := by
  have hc : c = ' ' ∨ c = '\t' ∨ c = '\r' ∨ c = '\n' ∨ c = ',' ∨ c = ')' := by
    simpa [isBreak, Char.isWhitespace, or_assoc] using h
  rcases hc with rfl | rfl | rfl | rfl | rfl | rfl <;>
    exact ⟨by decide, by decide, by decide, by decide, by decide, by decide, by decide⟩

/-- A reader that reads `a` off `cs` and leaves `after`, also when a break and more follow `cs`. -/
structure ReadsTo {α : Type} (read : Reader α) (cs : List Char) (a : α) (after : List Char) :
    Prop where
  suffix : after <:+ cs
  shorter : after.length < cs.length
  append : ∀ c more, isBreak c = true → read (cs ++ c :: more) = some (a, after ++ c :: more)

section

variable {α β : Type} {read read' : Reader α} {cs after : List Char} {a : α}

/-- A reader that goes as another one does. -/
theorem ReadsTo.of_eq (h : ReadsTo read cs a after)
    (heq : ∀ c more, isBreak c = true → read' (cs ++ c :: more) = read (cs ++ c :: more)) :
    ReadsTo read' cs a after :=
  ⟨h.suffix, h.shorter, fun c more hc => (heq c more hc).trans (h.append c more hc)⟩

/-- A reader that takes some characters off and goes on as another one does. -/
theorem ReadsTo.skip (h : ReadsTo read cs a after) (pre : List Char)
    (heq : ∀ c more, isBreak c = true → read' (pre ++ (cs ++ c :: more)) = read (cs ++ c :: more)) :
    ReadsTo read' (pre ++ cs) a after where
  suffix := h.suffix.trans (List.suffix_append pre cs)
  shorter := by
    have hshorter := h.shorter
    rw [List.length_append]
    omega
  append c more hc := by
    rw [List.append_assoc]
    exact (heq c more hc).trans (h.append c more hc)

theorem ReadsTo.map (h : ReadsTo read cs a after) (f : α → β) :
    ReadsTo (fun cs => (read cs).map fun r => (f r.1, r.2)) cs (f a) after :=
  ⟨h.suffix, h.shorter, fun c more hc => by
    show (read (cs ++ c :: more)).map _ = _
    rw [h.append c more hc, Option.map_some]⟩

end

/-! ## Quotes, runs and numbers -/

theorem quoted?_readsTo {q : Char} (hq : isBreak q = false) {escapes : Bool}
    {cs s after : List Char} (h : quoted? q escapes cs = some (s, after)) :
    ReadsTo (quoted? q escapes) cs s after := by
  fun_induction quoted? q escapes cs generalizing s with
  | case1 => cases h
  | case2 =>
    cases h
    refine ⟨List.nil_suffix, Nat.zero_lt_one, fun c more hc => ?_⟩
    have hne : c ≠ q := fun he => by rw [he, hq] at hc; cases hc
    simp [quoted?, hne]
  | case3 => cases h
  | case4 rest ih =>
    obtain ⟨⟨s', after'⟩, hr, he⟩ := Option.map_eq_some_iff.1 h
    cases he
    refine ((ih hr).map (q :: ·)).skip [q, q] fun c more _ => ?_
    rw [List.cons_append, List.cons_append, List.nil_append, quoted?, if_pos rfl, if_pos rfl]
  | case5 e rest hne =>
    cases h
    refine ⟨List.suffix_cons _ _, by simp, fun c more _ => ?_⟩
    rw [List.cons_append, List.cons_append, quoted?, if_pos rfl, if_neg hne]
  | case6 c e rest hne hescape ih =>
    obtain ⟨⟨s', after'⟩, hr, he⟩ := Option.map_eq_some_iff.1 h
    cases he
    refine ((ih hr).map (unescaped e ++ ·)).skip [c, e] fun b more _ => ?_
    rw [List.cons_append, List.cons_append, List.nil_append, quoted?, if_neg hne, if_pos hescape]
  | case7 c e rest hne hescape ih =>
    obtain ⟨⟨s', after'⟩, hr, he⟩ := Option.map_eq_some_iff.1 h
    cases he
    refine ((ih hr).map (c :: ·)).skip [c] fun b more _ => ?_
    rw [List.singleton_append, List.cons_append, quoted?, if_neg hne, if_neg hescape]

theorem takeWhile_append_break {p : Char → Bool} {c : Char} (hp : p c = false)
    (cs more : List Char) :
    (cs ++ c :: more).takeWhile p = cs.takeWhile p ∧
      (cs ++ c :: more).dropWhile p = cs.dropWhile p ++ c :: more := by
  induction cs with
  | nil => simp [hp]
  | cons e cs ih =>
    rw [List.cons_append, List.takeWhile_cons, List.takeWhile_cons, List.dropWhile_cons,
      List.dropWhile_cons, ih.1, ih.2]
    split <;> exact ⟨rfl, rfl⟩

theorem startsNumber_append_break {c : Char} (hc : isBreak c = true) (cs more : List Char)
    (hne : cs ≠ []) : startsNumber (cs ++ c :: more) = startsNumber cs := by
  have hdigit := (breaks_of_isBreak hc).digit
  match cs with
  | [] => exact absurd rfl hne
  | [e] =>
    by_cases he : e = '-'
    · subst he
      exact hdigit
    · simp [startsNumber, he]
  | e :: e' :: cs =>
    by_cases he : e = '-'
    · subst he
      rfl
    · simp [startsNumber, he]

theorem symbolRun_append_break {c : Char} (hc : isBreak c = true) (cs more : List Char) :
    symbolRun (cs ++ c :: more) = ((symbolRun cs).1, (symbolRun cs).2 ++ c :: more) ∧
      (symbolRun cs).2 <:+ cs := by
  induction cs with
  | nil => simp [symbolRun, (breaks_of_isBreak hc).symbol]
  | cons e cs ih =>
    have hnum := startsNumber_append_break hc (e :: cs) more (by simp)
    rw [List.cons_append] at hnum ⊢
    rw [symbolRun, symbolRun, hnum]
    split
    · rw [ih.1]
      exact ⟨rfl, ih.2.trans (List.suffix_cons _ _)⟩
    · exact ⟨rfl, List.suffix_rfl⟩

theorem magnitude_append_break {c : Char} (hc : isBreak c = true) (cs more : List Char) :
    magnitude (cs ++ c :: more) = ((magnitude cs).1, (magnitude cs).2 ++ c :: more) ∧
      (magnitude cs).2 <:+ cs := by
  have hb := breaks_of_isBreak hc
  obtain ⟨htake, hdrop⟩ := takeWhile_append_break hb.digit cs more
  have hsuffix := List.dropWhile_suffix Decimal.isDigit (l := cs)
  unfold magnitude
  rw [htake, hdrop]
  cases hcs : cs.dropWhile Decimal.isDigit with
  | nil => simp [hb.point]
  | cons e rest =>
    rw [hcs] at hsuffix
    by_cases he : e = '.'
    · subst he
      obtain ⟨htake', hdrop'⟩ := takeWhile_append_break hb.digit rest more
      simp only [List.cons_append, htake', hdrop']
      simp only [true_and]
      exact (List.dropWhile_suffix _).trans ((List.suffix_cons _ _).trans hsuffix)
    · simp [he, hsuffix]

theorem number_of_ne_minus {e : Char} (he : e ≠ '-') (cs : List Char) :
    number (e :: cs) = magnitude (e :: cs) := by
  unfold number
  split
  · next heq => exact absurd (List.cons.inj heq).1 he
  · rfl

theorem number_append_break {c : Char} (hc : isBreak c = true) (cs more : List Char) :
    number (cs ++ c :: more) = ((number cs).1, (number cs).2 ++ c :: more) ∧
      (number cs).2 <:+ cs := by
  cases cs with
  | nil =>
    obtain ⟨hmagnitude, -⟩ := magnitude_append_break hc [] more
    rw [List.nil_append, number_of_ne_minus (breaks_of_isBreak hc).minus]
    exact ⟨hmagnitude, by simp [number, magnitude]⟩
  | cons e cs =>
    by_cases he : e = '-'
    · subst he
      obtain ⟨hmagnitude, hsuffix⟩ := magnitude_append_break hc cs more
      rw [List.cons_append, number, number, hmagnitude]
      exact ⟨rfl, hsuffix.trans (List.suffix_cons _ _)⟩
    · rw [List.cons_append, number_of_ne_minus he, number_of_ne_minus he, ← List.cons_append]
      exact magnitude_append_break hc (e :: cs) more

theorem magnitude_snd_cons {e : Char} (he : Decimal.isDigit e = true) (cs : List Char) :
    (magnitude (e :: cs)).2 = (magnitude cs).2 := by
  unfold magnitude
  rw [List.dropWhile_cons_of_pos he]
  split <;> rfl

theorem number_shorter {cs : List Char} (h : startsNumber cs = true) :
    (number cs).2.length < cs.length := by
  cases cs with
  | nil => cases h
  | cons e cs =>
    have hsuffix := (magnitude_append_break (c := ' ') (by decide) cs []).2.length_le
    by_cases he : e = '-'
    · subst he
      exact Nat.lt_succ_of_le hsuffix
    · have hdigit : Decimal.isDigit e = true := by simpa [startsNumber, he] using h
      rw [number_of_ne_minus he, magnitude_snd_cons hdigit, List.length_cons]
      omega

theorem numeric?_readsTo {d : Dialect} {cs after : List Char} {t : Token}
    (hs : startsNumber cs = true) (h : numeric? d cs = some (t, after)) :
    ReadsTo (numeric? d) cs t after := by
  have hshorter := number_shorter hs
  unfold numeric? at h
  split at h
  · next rest =>
    obtain ⟨b, hb, he⟩ := Option.map_eq_some_iff.1 h
    cases he
    have hsuffix := List.dropWhile_suffix (fun c => (Text.Hex.digit? c).isSome) (l := rest)
    have hle := hsuffix.length_le
    refine ⟨hsuffix.trans ((List.suffix_cons _ _).trans (List.suffix_cons _ _)),
      by simp only [List.length_cons]; omega, fun c more hc => ?_⟩
    obtain ⟨htake, hdrop⟩ := takeWhile_append_break
      (p := fun c => (Text.Hex.digit? c).isSome) (breaks_of_isBreak hc).hex rest more
    rw [List.cons_append, List.cons_append, numeric?, htake, hdrop, hb, Option.map_some]
  · next hno =>
    cases h
    refine ⟨?_, hshorter, fun c more hc => ?_⟩
    · exact (number_append_break (c := ' ') (by decide) cs []).2
    · have hhex : ∀ rest, d = .mssql → cs ++ c :: more ≠ '0' :: 'x' :: rest := by
        intro rest hd he
        match cs with
        | [] => cases hs
        | [_] =>
          have hx : c = 'x' := (List.cons.inj (List.cons.inj he).2).1
          exact (breaks_of_isBreak hc).hexMark hx
        | e :: e' :: cs =>
          have h0 : e = '0' := (List.cons.inj he).1
          have h1 : e' = 'x' := (List.cons.inj (List.cons.inj he).2).1
          subst h0 h1
          exact hno cs hd rfl
      unfold numeric?
      split
      · next rest he => exact absurd he (hhex rest rfl)
      · rw [(number_append_break hc cs more).1]

/-! ## Tokens -/

theorem wordlike?_readsTo {d : Dialect} {e : Char} {cs after : List Char} {t : Token}
    (he : isWordChar e = true) (h : wordlike? d (e :: cs) = some (t, after)) :
    ReadsTo (wordlike? d) (e :: cs) t after := by
  unfold wordlike? at h
  split at h
  · next rest heq =>
    obtain ⟨r, hr, hbytes⟩ := Option.bind_eq_some_iff.1 h
    obtain ⟨b, hb, hafter⟩ := Option.bind_eq_some_iff.1 hbytes
    cases hafter
    have hread := quoted?_readsTo (by decide) hr
    have hshorter := hread.shorter
    rw [heq]
    refine ⟨(hread.suffix.trans (List.suffix_cons _ _)).trans (List.suffix_cons _ _),
      by simp only [List.length_cons]; omega, fun c more hc => ?_⟩
    rw [List.cons_append, List.cons_append, wordlike?, hread.append c more hc]
    show (octets? r.1).bind _ = _
    rw [hb]
    rfl
  · next hno =>
    cases h
    have hshorter := (List.dropWhile_suffix isWordChar (l := cs)).length_le
    refine ⟨List.dropWhile_suffix _, ?_, fun c more hc => ?_⟩
    · rw [List.dropWhile_cons_of_pos he, List.length_cons]
      omega
    · obtain ⟨htake, hdrop⟩ := takeWhile_append_break (breaks_of_isBreak hc).word (e :: cs) more
      unfold wordlike?
      split
      · next rest heq =>
        exfalso
        have hx : e = 'X' := (List.cons.inj heq).1
        have hq := (List.cons.inj heq).2
        cases cs with
        | nil =>
          rw [(List.cons.inj hq).1] at hc
          cases hc
        | cons e' cs => exact hno cs rfl (by rw [hx, (List.cons.inj hq).1])
      · rw [htake, hdrop]

theorem operator?_readsTo {d : Dialect} {e : Char} {cs after : List Char} {t : Token}
    (he : isSymbolChar e = true) (hs : startsNumber (e :: cs) = false)
    (h : operator? d (e :: cs) = some (t, after)) : ReadsTo (operator? d) (e :: cs) t after := by
  have hshorter := (symbolRun_append_break (c := ' ') (by decide) cs []).2.length_le
  unfold operator? at h
  split at h
  · cases h
  · next hcomment =>
    cases h
    refine ⟨(symbolRun_append_break (c := ' ') (by decide) (e :: cs) []).2, ?_, fun c more hc => ?_⟩
    · rw [symbolRun, he, hs, if_pos (by decide)]
      exact Nat.lt_succ_of_le hshorter
    · unfold operator?
      rw [(symbolRun_append_break hc (e :: cs) more).1, if_neg hcomment]

/-- A token stays as it is when a break and more follow the text that it begins. -/
theorem lexeme?_readsTo {d : Dialect} {cs after : List Char} {t : Token}
    (h : lexeme? d cs = some (t, after)) : ReadsTo (lexeme? d) cs t after := by
  cases cs with
  | nil => cases h
  | cons e cs =>
    have hcons : ∀ c more, (e :: cs) ++ c :: more = e :: (cs ++ c :: more) := fun c more => rfl
    have hnum : ∀ c more, isBreak c = true →
        startsNumber (e :: (cs ++ c :: more)) = startsNumber (e :: cs) := by
      intro c more hc
      exact startsNumber_append_break hc (e :: cs) more (by simp)
    rw [lexeme?] at h
    split_ifs at h with h1 h2 h3 h4 h5 h6
    · obtain ⟨r, hr, hafter⟩ := Option.map_eq_some_iff.1 h
      cases hafter
      have hread := quoted?_readsTo (by rw [h1]; decide) hr
      refine (hread.map fun s => Token.text (.ofList s)).skip [e] fun c more _ => ?_
      rw [List.singleton_append, lexeme?, if_pos h1]
    · obtain ⟨r, hr, hafter⟩ := Option.map_eq_some_iff.1 h
      cases hafter
      have hread := quoted?_readsTo (by rw [h2]; cases d <;> decide) hr
      refine (hread.map fun s => Token.name (.ofList s)).skip [e] fun c more _ => ?_
      rw [List.singleton_append, lexeme?, if_neg h1, if_pos h2]
    · cases h
      refine ⟨List.suffix_cons _ _, Nat.lt_succ_self _, fun c more hc => ?_⟩
      rw [hcons, lexeme?, if_neg h1, if_neg h2, if_pos h3]
    · refine (numeric?_readsTo h4 h).of_eq fun c more hc => ?_
      rw [hcons, lexeme?, if_neg h1, if_neg h2, if_neg h3, hnum c more hc, if_pos h4]
    · refine (wordlike?_readsTo h5 h).of_eq fun c more hc => ?_
      rw [hcons, lexeme?, if_neg h1, if_neg h2, if_neg h3, hnum c more hc, if_neg h4, if_pos h5]
    · refine (operator?_readsTo h6 (by simpa using h4) h).of_eq fun c more hc => ?_
      rw [hcons, lexeme?, if_neg h1, if_neg h2, if_neg h3, hnum c more hc, if_neg h4, if_neg h5,
        if_pos h6]

/-! ## Blanks -/

theorem skipBlanks_suffix (cs : List Char) : skipBlanks cs <:+ cs :=
  List.dropWhile_suffix _

theorem skipBlanks_append {cs : List Char} (h : skipBlanks cs ≠ []) (more : List Char) :
    skipBlanks (cs ++ more) = skipBlanks cs ++ more := by
  unfold skipBlanks at h ⊢
  rw [List.dropWhile_append, if_neg (by simpa using h)]

theorem skipBlanks_append_of_nil {cs : List Char} (h : skipBlanks cs = []) (more : List Char) :
    skipBlanks (cs ++ more) = skipBlanks more := by
  unfold skipBlanks at h ⊢
  rw [List.dropWhile_append, h]
  rfl

theorem next?_readsTo {d : Dialect} {cs after : List Char} {t : Token}
    (h : next? d cs = some (t, after)) : ReadsTo (next? d) cs t after := by
  have hne : skipBlanks cs ≠ [] := by
    intro hnil
    rw [next?, hnil] at h
    cases h
  have hread := lexeme?_readsTo h
  have hle := (skipBlanks_suffix cs).length_le
  have hlt := hread.shorter
  refine ⟨hread.suffix.trans (skipBlanks_suffix cs), by omega, fun c more hc => ?_⟩
  rw [next?, skipBlanks_append hne, hread.append c more hc]

end SqlGateway.Sql
