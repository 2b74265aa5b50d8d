import SqlGateway.Proofs.Condition.Flaw
import SqlGateway.Proofs.Dialect.Parts
import SqlGateway.Proofs.Sql.Spelling

/-!
# Comparisons in the text of a condition

A condition that has a text has every one of its comparisons in it, however deep
in its groups they are, and a clause keeps what stands in its conditions.  A
list without items is written as such; whether there is a text has nothing to do
with it.

    text d c = s, t in c             the text of t is part of s
    value t = some (.list [])        text d t = name operator ()
-/

namespace SqlGateway

/-! ## Algorithm -/

/-- `part` stands somewhere in `s`. -/
def Text.PartOf (part s : String) : Prop :=
  part.toList <:+: s.toList

namespace Term

/-- The value is a list, and there is nothing in it. -/
def IsEmptyList (t : Term) : Prop :=
  t.value = some (.list [])

/-- A comparison with no items to compare with. -/
def emptyListText (t : Term) (d : Dialect) : String :=
  d.quoteIdentifier t.identifier ++ " " ++ t.operator.getD "IN" ++ " ()"

end Term

/-! ## Parts of texts -/

namespace Text.PartOf

theorem refl (s : String) : PartOf s s :=
  List.infix_rfl

theorem trans {a b c : String} (h : PartOf a b) (h' : PartOf b c) : PartOf a c :=
  List.IsInfix.trans h h'

theorem around {part s : String} (h : PartOf part s) (before after : String) :
    PartOf part (before ++ s ++ after) := by
  refine h.trans ?_
  unfold PartOf
  rw [String.toList_append, String.toList_append]
  exact List.infix_append _ _ _

theorem intercalate {part s : String} (h : PartOf part s) (glue : String) {ss : List String}
    (hs : s ∈ ss) : PartOf part (glue.intercalate ss) := by
  obtain ⟨xs, ys, rfl⟩ := List.append_of_mem hs
  obtain ⟨before, after, htext⟩ := Dialect.intercalate_around glue xs ys
  rw [htext]
  exact h.around before after

/-- Trimming takes nothing off a part that neither begins nor ends with a blank. -/
theorem trim {part s : String} (h : PartOf part s) (hpart : Sql.Trimmed part.toList) :
    PartOf part (Text.trim s) := by
  obtain ⟨xs, ys, hs⟩ := h
  obtain ⟨first, hfirst, hblank⟩ := hpart.first
  obtain ⟨last, hlast, hblank'⟩ := hpart.last
  obtain ⟨rest, hcons⟩ := List.head?_eq_some_iff.1 hfirst
  obtain ⟨front, hconcat⟩ := List.getLast?_eq_some_iff.1 hlast
  -- The blanks in front stop before the part begins, and those at the back where it ends.
  have hstart : Text.trimStart s.toList = xs.dropWhile Text.isBlank ++ (part.toList ++ ys) := by
    rw [Text.trimStart, ← hs, List.append_assoc, hcons]
    exact (Sql.takeWhile_append_break hblank xs (rest ++ ys)).2
  have hend : ∀ zs, Text.trimEnd (zs ++ part.toList ++ ys)
      = zs ++ part.toList ++ (ys.reverse.dropWhile Text.isBlank).reverse := by
    intro zs
    rw [Text.trimEnd, hconcat]
    simp only [List.reverse_append, List.reverse_cons, List.reverse_nil, List.nil_append,
      List.cons_append]
    rw [(Sql.takeWhile_append_break hblank' ys.reverse _).2]
    simp
  unfold PartOf
  rw [Text.toList_trim, Text.trimChars, hstart, ← List.append_assoc, hend]
  exact List.infix_append _ _ _

end Text.PartOf

/-! ## Terms -/

namespace Term

theorem text_of_isEmptyList {t : Term} (h : t.IsEmptyList) {d : Dialect} {s : String}
    (hs : t.text d = .ok s) : s = t.emptyListText d := by
  have hcomparison : t.comparison? = some (t.operator.getD "IN", .list []) := by
    unfold comparison?
    rw [h]
    cases t.operator <;> rfl
  unfold text at hs
  rw [hcomparison] at hs
  split at hs
  · cases hs
  · have hblank : (" ()" : String) = " " ++ "()" := rfl
    rw [← Except.ok.inj hs, emptyListText, hblank]
    simp only [String.append_assoc]
    rfl

/-- It begins with a quote and ends with a parenthesis. -/
theorem trimmed_emptyListText (t : Term) (d : Dialect) :
    Sql.Trimmed (t.emptyListText d).toList := by
  obtain ⟨cs, hname⟩ := Sql.quoteIdentifier_head d t.identifier
  have htext : (t.emptyListText d).toList
      = Sql.nameQuote d :: (cs ++ " ".toList ++ (t.operator.getD "IN").toList ++ " (".toList)
        ++ [')'] := by
    simp [emptyListText, hname]
  rw [htext]
  refine ⟨⟨_, rfl, by cases d <;> decide⟩, ⟨')', List.getLast?_concat, by decide⟩⟩

end Term

/-! ## Conditions -/

namespace Condition

/-- The texts of a group come first, whatever is made of them. -/
theorem texts_of_bind {d : Dialect} {c : Condition} {cs : List Condition}
    {make : List String → String} {s : String}
    (h : (text d c >>= fun first => texts d cs >>= fun rest => .ok (make (first :: rest)))
      = .ok s) : ∃ ss, texts d (c :: cs) = .ok ss ∧ s = make ss := by
  obtain ⟨first, hfirst, h⟩ := bind_eq_ok_iff.1 h
  obtain ⟨rest, hrest, h⟩ := bind_eq_ok_iff.1 h
  refine ⟨first :: rest, ?_, (Except.ok.inj h).symm⟩
  simp only [texts, hfirst, hrest]
  rfl

theorem texts_of_text_or {d : Dialect} {items : List Condition} {s : String}
    (h : text d (.or items) = .ok s) : ∃ ss, texts d items = .ok ss ∧
      s = "(" ++ " OR ".intercalate (ss.map fun s => "(" ++ s ++ ")") ++ ")" := by
  cases items with
  | nil => simp [text] at h
  | cons c cs =>
    simp only [text] at h
    exact texts_of_bind h

theorem texts_of_text_and {d : Dialect} {items : List Condition} {s : String}
    (h : text d (.and items) = .ok s) :
    ∃ ss, texts d items = .ok ss ∧ s = " AND ".intercalate ss := by
  cases items with
  | nil => simp [text] at h
  | cons c cs =>
    simp only [text] at h
    exact texts_of_bind h

mutual

/-- Every term of a condition is written. -/
theorem exists_partOf_text {d : Dialect} {c : Condition} {s : String} (h : text d c = .ok s)
    {t : Term} (ht : t ∈ c.terms) : ∃ part, t.text d = .ok part ∧ Text.PartOf part s := by
  cases c with
  | raw sql => simp [terms] at ht
  | term t' =>
    simp only [terms, List.mem_singleton] at ht
    subst ht
    exact ⟨s, by simpa only [text] using h, .refl s⟩
  | or items =>
    obtain ⟨ss, hss, rfl⟩ := texts_of_text_or h
    obtain ⟨s, hs, part, hpart, hin⟩ := exists_partOf_texts hss (by simpa only [terms] using ht)
    have hitem : "(" ++ s ++ ")" ∈ ss.map fun s => "(" ++ s ++ ")" := List.mem_map_of_mem hs
    exact ⟨part, hpart, ((hin.around "(" ")").intercalate " OR " hitem).around "(" ")"⟩
  | and items =>
    obtain ⟨ss, hss, rfl⟩ := texts_of_text_and h
    obtain ⟨s, hs, part, hpart, hin⟩ := exists_partOf_texts hss (by simpa only [terms] using ht)
    exact ⟨part, hpart, hin.intercalate " AND " hs⟩

theorem exists_partOf_texts {d : Dialect} {cs : List Condition} {ss : List String}
    (h : texts d cs = .ok ss) {t : Term} (ht : t ∈ termsOf cs) :
    ∃ s ∈ ss, ∃ part, t.text d = .ok part ∧ Text.PartOf part s := by
  cases cs with
  | nil => simp [termsOf] at ht
  | cons c cs =>
    simp only [texts] at h
    obtain ⟨first, hfirst, h⟩ := bind_eq_ok_iff.1 h
    obtain ⟨rest, hrest, h⟩ := bind_eq_ok_iff.1 h
    obtain rfl := Except.ok.inj h
    simp only [termsOf, List.mem_append] at ht
    rcases ht with ht | ht
    · exact ⟨first, List.mem_cons_self, exists_partOf_text hfirst ht⟩
    · obtain ⟨s, hs, hpart⟩ := exists_partOf_texts hrest ht
      exact ⟨s, List.mem_cons_of_mem first hs, hpart⟩

end

/-- So a list without items is written wherever it stands. -/
theorem partOf_text_emptyList {d : Dialect} {c : Condition} {s : String} (h : text d c = .ok s)
    {t : Term} (ht : t ∈ c.terms) (hempty : t.IsEmptyList) :
    Text.PartOf (t.emptyListText d) s := by
  obtain ⟨part, hpart, hin⟩ := exists_partOf_text h ht
  rwa [Term.text_of_isEmptyList hempty hpart] at hin

theorem partOf_texts_emptyList {d : Dialect} {cs : List Condition} {ss : List String}
    (h : texts d cs = .ok ss) {t : Term} (ht : t ∈ termsOf cs) (hempty : t.IsEmptyList) :
    ∃ s ∈ ss, Text.PartOf (t.emptyListText d) s := by
  obtain ⟨s, hs, part, hpart, hin⟩ := exists_partOf_texts h ht
  rw [Term.text_of_isEmptyList hempty hpart] at hin
  exact ⟨s, hs, hin⟩

end Condition

/-! ## Clauses -/

/-- What stands in a condition stands in its clause, but for blanks around it. -/
theorem partOf_clauseText (word : String) {part s : String} {conditions : List String}
    (h : Text.PartOf part s) (hpart : Sql.Trimmed part.toList) (hs : s ∈ conditions) :
    Text.PartOf part (clauseText word conditions) := by
  have hblank : Text.isBlankText s = false := by
    obtain ⟨c, hc, hnot⟩ := hpart.first
    rw [Text.isBlankText, List.all_eq_false]
    exact ⟨c, h.subset (List.mem_of_mem_head? hc), by simp [hnot]⟩
  have hkept : Text.trim s ∈ (conditions.filter fun c => !Text.isBlankText c).map Text.trim :=
    List.mem_map_of_mem (List.mem_filter.2 ⟨hs, by simp [hblank]⟩)
  unfold clauseText
  split
  · next hnil =>
    rw [hnil] at hkept
    cases hkept
  · have hin := (h.trim hpart).intercalate " AND " hkept
    have hclause := hin.around (" " ++ word ++ " ") ""
    rwa [String.append_empty] at hclause

/-- What stands in a condition stands in the statement. -/
theorem Frame.partOf_text (f : Frame) {kind : QueryKind} {part s : String}
    {conditions having : List String} (h : Text.PartOf part s) (hpart : Sql.Trimmed part.toList)
    (hs : s ∈ conditions ∨ kind = .select ∧ s ∈ having) :
    Text.PartOf part (f.text kind conditions having) := by
  unfold text
  rcases hs with hs | ⟨rfl, hs⟩
  · have hclause := partOf_clauseText "WHERE" h hpart hs
    have hframe := hclause.around f.before
      (f.between ++ (if kind = .select then clauseText "HAVING" having else "") ++ f.after)
    simpa only [String.append_assoc] using hframe
  · have hclause := partOf_clauseText "HAVING" h hpart hs
    have hframe := hclause.around (f.before ++ clauseText "WHERE" conditions ++ f.between) f.after
    simpa only [String.append_assoc, if_true] using hframe

end SqlGateway
