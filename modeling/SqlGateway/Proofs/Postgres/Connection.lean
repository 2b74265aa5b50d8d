import SqlGateway.Server.Postgres.Connection
import SqlGateway.Proofs.Sql.Number

/-!
# Connection strings read back

A reader of the keyword/value form of libpq.  Settings stand one after the other
with blanks between them; a setting is a keyword, an equals sign and a value,
perhaps with blanks around the sign.  A value with an apostrophe in front goes
on to the next apostrophe, any other to the next blank, and in both a backslash
is dropped and the character behind it taken as it is.

    settings? (connectionString c) = the seven settings of c, and nothing else
-/

namespace SqlGateway.Postgres

/-! ## Algorithm -/

/-- The blanks between settings. -/
def isBlank (c : Char) : Bool :=
  c = ' ' || c = '\t' || c = '\n' || c = '\x0b' || c = '\x0c' || c = '\r'

/-- Where a reader is: the keyword and the value that it has read so far. -/
inductive Place where
  | between
  | keyword (name : List Char)
  /-- On the blanks before an equals sign. -/
  | behindKeyword (name : List Char)
  | beforeValue (name : List Char)
  | bare (name value : List Char)
  | bareEscape (name value : List Char)
  | quoted (name value : List Char)
  | quotedEscape (name value : List Char)

structure Reader where
  settings : List (String × String) := []
  place : Place := .between

namespace Reader

def move (r : Reader) (place : Place) : Reader :=
  { r with place }

/-- The end of a setting. -/
def store (r : Reader) (name value : List Char) : Reader :=
  { settings := r.settings ++ [(.ofList name, .ofList value)] }

def step (r : Reader) (c : Char) : Option Reader :=
  match r.place with
  | .between =>
    if isBlank c then some r else if c = '=' then none else some (r.move (.keyword [c]))
  | .keyword name =>
    some (r.move (if c = '=' then .beforeValue name
      else if isBlank c then .behindKeyword name else .keyword (name ++ [c])))
  | .behindKeyword name =>
    if isBlank c then some r else if c = '=' then some (r.move (.beforeValue name)) else none
  | .beforeValue name =>
    some (r.move (if isBlank c then .beforeValue name else if c = '\x27' then .quoted name []
      else if c = '\\' then .bareEscape name [] else .bare name [c]))
  | .bare name value =>
    some (if isBlank c then r.store name value
      else r.move (if c = '\\' then .bareEscape name value else .bare name (value ++ [c])))
  | .bareEscape name value => some (r.move (.bare name (value ++ [c])))
  | .quoted name value =>
    some (if c = '\x27' then r.store name value
      else r.move (if c = '\\' then .quotedEscape name value else .quoted name (value ++ [c])))
  | .quotedEscape name value => some (r.move (.quoted name (value ++ [c])))

def run (r : Reader) (cs : List Char) : Option Reader :=
  cs.foldlM step r

/-- The settings when the text is at its end. -/
def finish? (r : Reader) : Option (List (String × String)) :=
  match r.place with
  | .between => some r.settings
  | .keyword _ | .behindKeyword _ | .quoted .. | .quotedEscape .. => none
  | .beforeValue name => some (r.store name []).settings
  | .bare name value | .bareEscape name value => some (r.store name value).settings

end Reader

/-- The settings of a connection string, in order. -/
def settings? (s : String) : Option (List (String × String)) :=
  (Reader.run {} s.toList).bind Reader.finish?

/-- A character inside apostrophes. -/
def quoteChar (c : Char) : List Char :=
  if c = '\\' ∨ c = '\x27' then ['\\', c] else [c]

/-- A keyword that needs no care. -/
def isKeyword (name : List Char) : Bool :=
  !name.isEmpty && name.all fun c => !isBlank c && c != '='

/-- A value that needs no apostrophes. -/
def isBare (value : List Char) : Bool :=
  !value.isEmpty && value.all fun c => !isBlank c && c != '\x27' && c != '\\'

/-- How a value may be written. -/
inductive Writes : String → String → Prop where
  | quoted (value : String) : Writes (quoteValue value) value
  | bare (value : String) (h : isBare value.toList = true) : Writes value value

/-- A setting as it may stand in a connection string. -/
inductive WritesSetting : String × String → String × String → Prop where
  | of (name : String) {text value : String} (keyword : isKeyword name.toList = true)
      (h : Writes text value) : WritesSetting (name, text) (name, value)

/-- A reader to which the settings `ss` are what was read, whether the text ends here or goes on
after a blank. -/
structure HasRead (r : Reader) (ss : List (String × String)) : Prop where
  finish : r.finish? = some ss
  blank : r.step ' ' = some { settings := ss }

/-! ## Quoted values -/

/-- No backslash that is put before an apostrophe is escaped itself. -/
theorem escapeMark_escapeMark (cs : List Char) :
    escapeMark '\x27' (escapeMark '\\' cs) = cs.flatMap quoteChar := by
  unfold escapeMark
  rw [List.flatMap_assoc]
  congr 1
  funext c
  unfold quoteChar
  by_cases hback : c = '\\'
  · subst hback
    rfl
  · by_cases hquote : c = '\x27'
    · subst hquote
      rfl
    · simp [hback, hquote]

theorem toList_quoteValue (s : String) :
    (quoteValue s).toList = '\x27' :: (s.toList.flatMap quoteChar ++ ['\x27']) := by
  unfold quoteValue
  rw [String.toList_ofList, escapeMark_escapeMark, List.cons_append]

namespace Reader

theorem run_cons (r : Reader) (c : Char) (cs : List Char) :
    r.run (c :: cs) = (r.step c).bind fun r' => r'.run cs := rfl

theorem run_append (r : Reader) (xs ys : List Char) :
    r.run (xs ++ ys) = (r.run xs).bind fun r' => r'.run ys :=
  List.foldlM_append

/-- Inside apostrophes a written character is read as itself. -/
theorem run_quoteChar (ss : List (String × String)) (name value : List Char) (c : Char) :
    run ⟨ss, .quoted name value⟩ (quoteChar c) = some ⟨ss, .quoted name (value ++ [c])⟩ := by
  unfold quoteChar
  split
  · next h =>
    rw [run_cons]
    rfl
  · next h =>
    rw [not_or] at h
    rw [run_cons]
    simp only [step, h.1, h.2, if_false]
    rfl

theorem run_quoted (ss : List (String × String)) (name value cs : List Char) :
    run ⟨ss, .quoted name value⟩ (cs.flatMap quoteChar)
      = some ⟨ss, .quoted name (value ++ cs)⟩ := by
  induction cs generalizing value with
  | nil => rw [List.append_nil]; rfl
  | cons c cs ih =>
    rw [List.flatMap_cons, run_append, run_quoteChar, Option.bind_some, ih, List.append_assoc]
    rfl

/-! ## Keywords and bare values -/

theorem run_keyword (ss : List (String × String)) (name more : List Char)
    (h : ∀ c ∈ more, isBlank c = false ∧ c ≠ '=') :
    run ⟨ss, .keyword name⟩ (more ++ ['=']) = some ⟨ss, .beforeValue (name ++ more)⟩ := by
  induction more generalizing name with
  | nil => rw [List.append_nil]; rfl
  | cons c more ih =>
    obtain ⟨hblank, heq⟩ := h c List.mem_cons_self
    have hstep : step ⟨ss, .keyword name⟩ c = some ⟨ss, .keyword (name ++ [c])⟩ := by
      simp only [step, hblank, heq, if_false, Bool.false_eq_true]
      rfl
    rw [List.cons_append, run_cons, hstep, Option.bind_some,
      ih _ fun d hd => h d (List.mem_cons_of_mem c hd), List.append_assoc]
    rfl

theorem run_name (ss : List (String × String)) {name : List Char} (h : isKeyword name = true) :
    run ⟨ss, .between⟩ (name ++ ['=']) = some ⟨ss, .beforeValue name⟩ := by
  simp only [isKeyword, Bool.and_eq_true, List.all_eq_true, Bool.not_eq_true', bne_iff_ne] at h
  obtain ⟨hne, hall⟩ := h
  cases name with
  | nil => cases hne
  | cons c more =>
    obtain ⟨hblank, heq⟩ := hall c List.mem_cons_self
    have hstep : step ⟨ss, .between⟩ c = some ⟨ss, .keyword [c]⟩ := by
      simp only [step, hblank, heq, if_false, Bool.false_eq_true]
      rfl
    rw [List.cons_append, run_cons, hstep, Option.bind_some,
      run_keyword ss [c] more fun d hd => hall d (List.mem_cons_of_mem c hd)]
    rfl

theorem run_bare (ss : List (String × String)) (name value more : List Char)
    (h : ∀ c ∈ more, isBlank c = false ∧ c ≠ '\\') :
    run ⟨ss, .bare name value⟩ more = some ⟨ss, .bare name (value ++ more)⟩ := by
  induction more generalizing value with
  | nil => rw [List.append_nil]; rfl
  | cons c more ih =>
    obtain ⟨hblank, hback⟩ := h c List.mem_cons_self
    have hstep : step ⟨ss, .bare name value⟩ c = some ⟨ss, .bare name (value ++ [c])⟩ := by
      simp only [step, hblank, hback, if_false, Bool.false_eq_true]
      rfl
    rw [run_cons, hstep, Option.bind_some, ih _ fun d hd => h d (List.mem_cons_of_mem c hd),
      List.append_assoc]
    rfl

/-- Behind the equals sign a value is read as what it was written for. -/
theorem run_value (ss : List (String × String)) (name : List Char) {text value : String}
    (h : Writes text value) :
    ∃ r, run ⟨ss, .beforeValue name⟩ text.toList = some r ∧
      HasRead r (ss ++ [(.ofList name, value)]) := by
  cases h with
  | quoted =>
    refine ⟨(store ⟨ss, .between⟩ name value.toList), ?_, ?_, ?_⟩
    · have hopen : step ⟨ss, .beforeValue name⟩ '\x27' = some ⟨ss, .quoted name []⟩ := rfl
      rw [toList_quoteValue, run_cons, hopen, Option.bind_some, run_append, run_quoted]
      rfl
    · simp [store, finish?]
    · simp [store, step, isBlank]
  | bare _ h =>
    simp only [isBare, Bool.and_eq_true, List.all_eq_true, Bool.not_eq_true', bne_iff_ne] at h
    obtain ⟨hne, hall⟩ := h
    refine ⟨⟨ss, .bare name text.toList⟩, ?_, ?_, ?_⟩
    · cases htext : text.toList with
      | nil => rw [htext] at hne; cases hne
      | cons c more =>
        rw [htext] at hall
        obtain ⟨⟨hblank, hquote⟩, hback⟩ := hall c List.mem_cons_self
        have hstep : step ⟨ss, .beforeValue name⟩ c = some ⟨ss, .bare name [c]⟩ := by
          simp only [step, hblank, hquote, hback, if_false, Bool.false_eq_true]
          rfl
        rw [run_cons, hstep, Option.bind_some, run_bare]
        · rfl
        · intro d hd
          obtain ⟨⟨hblank, -⟩, hback⟩ := hall d (List.mem_cons_of_mem c hd)
          exact ⟨hblank, hback⟩
    · simp [finish?, store]
    · simp [step, isBlank, store]

end Reader

/-! ## Settings one after the other -/

namespace Reader

theorem run_setting (ss : List (String × String)) {text setting : String × String}
    (h : WritesSetting text setting) :
    ∃ r, run ⟨ss, .between⟩ (text.1 ++ "=" ++ text.2).toList = some r ∧
      HasRead r (ss ++ [setting]) := by
  obtain ⟨name, keyword, h⟩ := h
  obtain ⟨r, hrun, hread⟩ := run_value ss name.toList h
  rw [String.ofList_toList] at hread
  refine ⟨r, ?_, hread⟩
  rw [String.toList_append, String.toList_append, run_append]
  show (run _ (name.toList ++ ['='])).bind _ = _
  rw [run_name ss keyword, Option.bind_some, hrun]

theorem run_settings (ss : List (String × String)) {texts settings : List (String × String)}
    (h : List.Forall₂ WritesSetting texts settings) (hne : texts ≠ []) :
    ∃ r, run ⟨ss, .between⟩ (" ".intercalate (texts.map fun t => t.1 ++ "=" ++ t.2)).toList
      = some r ∧ HasRead r (ss ++ settings) := by
  induction h generalizing ss with
  | nil => exact absurd rfl hne
  | @cons text setting texts settings hfirst hrest ih =>
    obtain ⟨r, hrun, hread⟩ := run_setting ss hfirst
    by_cases hlast : texts = []
    · subst hlast
      cases hrest
      exact ⟨r, by simpa using hrun, hread⟩
    · have hmap : texts.map (fun t => t.1 ++ "=" ++ t.2) ≠ [] := by simpa using hlast
      obtain ⟨r', hrun', hread'⟩ := ih (ss ++ [setting]) hlast
      refine ⟨r', ?_, ?_⟩
      · have hblank (t rest : String) :
            (t ++ " " ++ rest).toList = t.toList ++ ' ' :: rest.toList := by
          rw [String.append_assoc, String.toList_append, String.toList_append]
          rfl
        rw [List.map_cons, String.intercalate_cons_of_ne_nil hmap, hblank, run_append, hrun,
          Option.bind_some, run_cons, hread.blank, Option.bind_some]
        exact hrun'
      · rwa [List.append_assoc] at hread'

end Reader

/-! ## The string of a configuration -/

theorem isBare_ofNat (n : Nat) : isBare (Decimal.ofNat n).toList = true := by
  have hplain : ∀ c, Decimal.isDigit c = true → isBlank c = false ∧ c ≠ '\x27' ∧ c ≠ '\\' := by
    intro c hc
    simp only [Decimal.isDigit, Bool.and_eq_true, decide_eq_true_eq] at hc
    refine ⟨?_, ?_, ?_⟩
    · simp only [isBlank, Bool.or_eq_false_iff, decide_eq_false_iff_not]
      refine ⟨⟨⟨⟨⟨?_, ?_⟩, ?_⟩, ?_⟩, ?_⟩, ?_⟩ <;>
        · rintro rfl
          exact absurd hc (by decide)
    · rintro rfl
      exact absurd hc (by decide)
    · rintro rfl
      exact absurd hc (by decide)
  unfold Decimal.ofNat isBare
  rw [String.toList_ofList, Bool.and_eq_true, List.all_eq_true]
  constructor
  · simp [Nat.toDigits_ne_nil]
  · intro c hc
    obtain ⟨hblank, hquote, hback⟩ := hplain c (Sql.isDigit_toDigits n c hc)
    simp [hblank, hquote, hback]

theorem natural?_ofNat_toList (n : Nat) : Decimal.natural? (Decimal.ofNat n).toList = some n := by
  unfold Decimal.ofNat Decimal.natural?
  rw [String.toList_ofList, Sql.ofDigits_toDigits, if_neg]
  simp only [Bool.or_eq_true, Bool.not_eq_true', not_or, Bool.not_eq_false, List.all_eq_true]
  exact ⟨by simp [Nat.toDigits_ne_nil], Sql.isDigit_toDigits n⟩

/-- **A connection string says what the configuration does.**  Whatever its texts hold, it reads
back as seven settings with the configured values, the port as a number, and as no others. -/
theorem settings?_connectionString (c : InstanceConfig) :
    ∃ port, settings? (connectionString c) = some [("host", c.host), ("port", port),
        ("dbname", c.dbname), ("user", c.user), ("password", c.passwd),
        ("sslmode", sslText c.sslMode), ("connect_timeout", "10")] ∧
      Decimal.natural? port.toList = some (c.port.getD 5432) := by
  refine ⟨Decimal.ofNat (c.port.getD defaultPort), ?_, natural?_ofNat_toList _⟩
  have hmode : isBare (sslText c.sslMode).toList = true := by
    cases c.sslMode <;> decide
  have hwrites : List.Forall₂ WritesSetting (settings c) [("host", c.host),
      ("port", Decimal.ofNat (c.port.getD defaultPort)), ("dbname", c.dbname), ("user", c.user),
      ("password", c.passwd), ("sslmode", sslText c.sslMode),
      ("connect_timeout", Decimal.ofNat connectTimeout)] :=
    .cons (.of "host" (by decide) (.quoted _)) <|
      .cons (.of "port" (by decide) (.bare _ (isBare_ofNat _))) <|
      .cons (.of "dbname" (by decide) (.quoted _)) <|
      .cons (.of "user" (by decide) (.quoted _)) <|
      .cons (.of "password" (by decide) (.quoted _)) <|
      .cons (.of "sslmode" (by decide) (.bare _ hmode)) <|
      .cons (.of "connect_timeout" (by decide) (.bare _ (isBare_ofNat _))) .nil
  obtain ⟨r, hrun, hread⟩ := Reader.run_settings [] hwrites (List.cons_ne_nil _ _)
  show (Reader.run ⟨[], .between⟩ (connectionString c).toList).bind Reader.finish? = _
  rw [connectionString, hrun, Option.bind_some, hread.finish]
  rfl

end SqlGateway.Postgres
