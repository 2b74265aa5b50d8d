import SqlGateway.Condition.Json
import SqlGateway.Proofs.Condition.Terms
import SqlGateway.Proofs.Request.Count
import SqlGateway.Proofs.Request.Draft

/-!
# Requests with empty lists

A comparison with a list that has no items is written like any other.  However a
request ends, only a flaw of its draft keeps it from the database, and an empty
list is none; without a flaw, what is sent has every empty list in it.

    flaw? (draft q) = some e    nothing is sent, and the failure is e
    flaw? (draft q) = none      one text is sent or shown, with name IN () for each empty list
-/

namespace SqlGateway

variable {σ ε : Type}

/-! ## Algorithm -/

/-- All terms of the conditions, on rows and on groups. -/
def Draft.terms (f : Draft) : List Term :=
  Condition.termsOf f.conditions ++ Condition.termsOf f.having

def Query.dialect : Query ε → Dialect
  | .select s => s.dialect
  | .command c => c.dialect

/-- The ways to end a request: to have it carried out, to ask for its text, or to ask how many rows
there are or whether there are any. -/
inductive Ending (ε : Type) where
  | terminal (t : Terminal ε)
  | preview (q : Query ε)
  | count (s : Select ε) (most : Option Int)
  | any (s : Select ε)

namespace Ending

/-- Ends the request; the query text, when that is what comes back. -/
def perform : Ending ε → DeskM σ ε (Option String)
  | .terminal t => t.perform
  | .preview q => do return some (← Desk.onSession q.sql)
  | .count s most => do let _ ← Desk.onSession (s.count most); return none
  | .any s => do let _ ← Desk.onSession s.exists?; return none

def query : Ending ε → Query ε
  | .terminal t => t.query
  | .preview q => q
  | .count s _ | .any s => .select s

/-- Only the text is asked for. -/
def isPreview : Ending ε → Bool
  | .terminal t => t.isPreview
  | .preview _ => true
  | .count .. | .any _ => false

/-- The text that is sent or comes back. -/
def text (idField : String) : Ending ε → Except BuildError String
  | .terminal t => t.shown.text idField
  | .preview q => q.text idField
  | .count s most => (Operation.selectCount s most).text idField
  | .any s => (Operation.selectCount s (some 1)).text idField

end Ending

/-! ## Statements -/

/-- The defaults bring in no conditions. -/
theorem QueryOptions.laid_conditions (kind : QueryKind) (o : QueryOptions) :
    (o.laid kind).conditions = o.conditions ∧ (o.laid kind).having = o.having := by
  have hconditions : (o.layeredOver (.defaults kind)).conditions = o.conditions := by
    cases kind <;> exact listOver_nil o.conditions
  have hhaving : (o.layeredOver (.defaults kind)).having = o.having := by
    cases kind <;> exact listOver_nil o.having
  unfold laid
  cases kind with
  | select =>
    dsimp only
    split <;> exact ⟨hconditions, hhaving⟩
  | update => exact ⟨hconditions, hhaving⟩
  | insert => exact ⟨hconditions, hhaving⟩
  | delete => exact ⟨hconditions, hhaving⟩

theorem Dialect.partOf_text {d : Dialect} {kind : QueryKind} (hkind : kind ≠ .insert)
    {idField sql : String} {o : QueryOptions} (h : d.text kind idField o = .ok sql)
    {part s : String} (hin : Text.PartOf part s) (hpart : Sql.Trimmed part.toList)
    (hs : s ∈ o.conditions ∨ kind = .select ∧ s ∈ o.having) : Text.PartOf part sql := by
  obtain ⟨hconditions, hhaving⟩ := o.laid_conditions kind
  unfold text at h
  rw [render_framed d idField _ hkind, hconditions, hhaving] at h
  cases hf : d.frame kind idField (o.laid kind) with
  | error e =>
    rw [hf] at h
    cases h
  | ok f =>
    rw [hf] at h
    cases h
    exact f.partOf_text hin hpart hs

/-! ## Requests -/

theorem Request.texts_of_resolved {r : Request} {o : QueryOptions} (h : r.resolved = .ok o) :
    Condition.texts r.dialect r.conditions = .ok o.conditions := by
  obtain ⟨conditions, hconditions, h⟩ := bind_eq_ok_iff.1 h
  cases h
  exact hconditions

theorem Command.partOf_textAs {c : Command} (hkind : c.kind.queryKind ≠ .insert)
    {idField sql : String} {mode : Option OutputMode → Option OutputMode}
    (h : c.textAs idField mode = .ok sql) {t : Term} (ht : t ∈ Condition.termsOf c.conditions)
    (hempty : t.IsEmptyList) : Text.PartOf (t.emptyListText c.dialect) sql := by
  obtain ⟨o, ho, h⟩ := bind_eq_ok_iff.1 h
  have htexts := c.toRequest.texts_of_resolved ho
  obtain ⟨s, hs, hin⟩ := Condition.partOf_texts_emptyList htexts ht hempty
  exact Dialect.partOf_text hkind h hin (t.trimmed_emptyListText c.dialect) (.inl hs)

/-- Changes of other options take no condition out of a select. -/
theorem Select.partOf_textWith {s : Select ε} {idField sql : String}
    {f : QueryOptions → QueryOptions}
    (hf : ∀ o, (f o).conditions = o.conditions ∧ (f o).having = o.having)
    (h : s.textWith idField f = .ok sql) {t : Term} (ht : t ∈ (Query.select s).draft.terms)
    (hempty : t.IsEmptyList) : Text.PartOf (t.emptyListText s.dialect) sql := by
  obtain ⟨o, ho, h⟩ := bind_eq_ok_iff.1 h
  obtain ⟨o', ho', ho⟩ := bind_eq_ok_iff.1 ho
  obtain ⟨having, hhaving, ho⟩ := bind_eq_ok_iff.1 ho
  cases ho
  obtain ⟨hconditions, hgroups⟩ := hf { o' with having }
  have htrimmed := t.trimmed_emptyListText s.dialect
  rcases List.mem_append.1 ht with ht | ht
  · have htexts := s.toRequest.texts_of_resolved ho'
    obtain ⟨text, htext, hin⟩ := Condition.partOf_texts_emptyList htexts ht hempty
    exact Dialect.partOf_text (by decide) h hin htrimmed (.inl (by rwa [hconditions]))
  · obtain ⟨text, htext, hin⟩ := Condition.partOf_texts_emptyList hhaving ht hempty
    exact Dialect.partOf_text (by decide) h hin htrimmed (.inr ⟨rfl, by rwa [hgroups]⟩)

theorem Query.partOf_text {q : Query ε} (hkind : q.draft.kind ≠ .insert) {idField sql : String}
    (h : q.text idField = .ok sql) {t : Term} (ht : t ∈ q.draft.terms) (hempty : t.IsEmptyList) :
    Text.PartOf (t.emptyListText q.dialect) sql := by
  cases q with
  | select s =>
    exact Select.partOf_textWith (f := fun o => { o with output := some .sqlText })
      (fun o => ⟨rfl, rfl⟩) h ht hempty
  | command c =>
    have hterms : (Query.command c : Query ε).draft.terms = Condition.termsOf c.conditions :=
      List.append_nil _
    have htext : c.textAs idField (fun _ => some .sqlText) = .ok sql := h
    rw [hterms] at ht
    exact Command.partOf_textAs hkind htext ht hempty

/-- A request for one row has the draft of the request. -/
theorem Terminal.shown_draft (t : Terminal ε) :
    t.shown.draft = t.query.draft ∧ t.shown.dialect = t.query.dialect := by
  unfold shown
  cases t.query with
  | select s => cases t.isSingle <;> exact ⟨rfl, rfl⟩
  | command c => exact ⟨rfl, rfl⟩

/-! ## Endings -/

theorem Select.counted_keeps (most : Option Int) (o : QueryOptions) :
    (counted most o).table = o.table ∧ (counted most o).what = o.what ∧
      (counted most o).conditions = o.conditions ∧ (counted most o).having = o.having := by
  unfold counted
  extract_lets o'
  split <;> exact ⟨rfl, rfl, rfl, rfl⟩

theorem Select.partOf_selectCount {s : Select ε} {most : Option Int} {idField sql : String}
    (h : (Operation.selectCount s most).text idField = .ok sql) {t : Term}
    (ht : t ∈ (Query.select s).draft.terms) (hempty : t.IsEmptyList) :
    Text.PartOf (t.emptyListText s.dialect) sql := by
  rw [text_selectCount_eq] at h
  obtain ⟨inner, hinner, h⟩ := bind_eq_ok_iff.1 h
  cases h
  have hin := partOf_textWith (fun o => (counted_keeps most o).2.2) hinner ht hempty
  exact hin.around ("SELECT COUNT(*) " ++ countColumn ++ " FROM (") ") oq"

theorem Select.failure?_selectCount (s : Select ε) (most : Option Int) (idField : String) :
    failure? ((Operation.selectCount s most).text idField) = (Query.select s).draft.flaw? := by
  have hkeeps : ∀ o, (counted most o).table = o.table ∧ (counted most o).what = o.what := by
    intro o
    exact ⟨(counted_keeps most o).1, (counted_keeps most o).2.1⟩
  rw [text_selectCount_eq, ← s.failure?_textWith idField (counted most) hkeeps]
  cases s.textWith idField (counted most) <;> rfl

namespace Ending

theorem failure?_text (e : Ending ε) (idField : String) :
    failure? (e.text idField) = e.query.draft.flaw? := by
  cases e with
  | terminal t => exact (t.shown.failure?_text idField).trans (by rw [t.shown_draft.1]; rfl)
  | preview q => exact q.failure?_text idField
  | count s most => exact s.failure?_selectCount most idField
  | any s => exact s.failure?_selectCount (some 1) idField

theorem partOf_text {e : Ending ε} (hkind : e.query.draft.kind ≠ .insert) {idField sql : String}
    (h : e.text idField = .ok sql) {t : Term} (ht : t ∈ e.query.draft.terms)
    (hempty : t.IsEmptyList) : Text.PartOf (t.emptyListText e.query.dialect) sql := by
  cases e with
  | terminal terminal =>
    obtain ⟨hdraft, hdialect⟩ := terminal.shown_draft
    have hkind' : terminal.shown.draft.kind ≠ .insert := by
      rw [hdraft]
      exact hkind
    have ht' : t ∈ terminal.shown.draft.terms := by
      rw [hdraft]
      exact ht
    have hin := Query.partOf_text hkind' h ht' hempty
    rwa [hdialect] at hin
  | preview q => exact Query.partOf_text hkind h ht hempty
  | count s most => exact Select.partOf_selectCount h ht hempty
  | any s => exact Select.partOf_selectCount h ht hempty

section

variable {session : Session σ} {d : Desk (Recorded σ) ε}

/-- A number made of a count is made of the rows of one statement. -/
theorem sends_count (hd : d.channel.session = session.recorded) (s : Select ε)
    (most : Option Int) {α : Type} (make : Nat → α) :
    Sends session d ((Operation.selectCount s most).text session.idField)
      (Desk.onSession (do return make (← s.count most))) := by
  have hid : d.channel.session.idField = session.idField := by
    rw [hd]
    rfl
  have hsent : ∀ sql r, session.Sent r sql (fun _ => True)
      ((Session.rows sql >>= fun rows => pure (make (Select.countOfRow rows.head?)) :
        SessionM (Recorded σ) α).run ⟨session.recorded, r⟩) := by
    intro sql r
    exact (Session.sent_rows session r sql).map (fun rows => make (Select.countOfRow rows.head?))
      fun _ _ => trivial
  refine sends_onSession hd ?_ fun sql => hsent sql _
  rw [run_bind_congr (Select.run_count s most d.channel), bind_assoc, hid]
  simp only [bind_assoc, pure_bind]

theorem sends_perform_text (hd : d.channel.session = session.recorded) (e : Ending ε)
    (he : e.isPreview = false) : Sends session d (e.text session.idField) e.perform := by
  cases e with
  | terminal t => exact t.sends_perform hd he
  | preview q => cases he
  | count s most =>
    have hcount := sends_count hd s most id
    simp only [id_eq, bind_pure] at hcount
    exact hcount.bind fun _ => Desk.keeps_pure none
  | any s =>
    exact (sends_count hd s (some 1) fun n => decide (0 < n)).bind fun _ => Desk.keeps_pure none

theorem run_perform_preview (e : Ending ε) (he : e.isPreview = true) (d : Desk σ ε) :
    (e.perform : DeskM σ ε (Option String)).run d
      = match e.text d.channel.session.idField with
        | .error cause => (.error (.queryBuild cause), d)
        | .ok sql => (.ok (some sql), d) := by
  cases e with
  | terminal t => exact t.run_preview he d
  | preview q =>
    show (Desk.onSession q.sql >>= fun sql => pure (some sql)).run d
      = match q.text d.channel.session.idField with
        | .error cause => (.error (.queryBuild cause), d)
        | .ok sql => (.ok (some sql), d)
    rw [run_bind, Desk.run_onSession, q.run_sql]
    cases q.text d.channel.session.idField <;> rfl
  | count s most => cases he
  | any s => cases he

/-- Without a text nothing happens; else the text comes back or is sent. -/
theorem run_perform (hd : d.channel.session = session.recorded) (e : Ending ε) :
    match e.text session.idField with
    | .error cause => e.perform.run d = (.error (.queryBuild cause), d)
    | .ok sql =>
      if e.isPreview then e.perform.run d = (.ok (some sql), d)
      else ∀ connection r₁, session.Attains d.channel.world connection r₁ →
        (e.perform.run d).2.channel.world.statements = d.channel.world.statements ++ [sql] := by
  have hid : d.channel.session.idField = session.idField := by
    rw [hd]
    rfl
  cases he : e.isPreview with
  | false =>
    have hsends := e.sends_perform_text hd he
    cases htext : e.text session.idField with
    | error cause => exact hsends.unbuilt cause htext
    | ok sql => exact hsends.sent sql htext
  | true =>
    have hrun := e.run_perform_preview he d
    rw [hid] at hrun
    cases htext : e.text session.idField with
    | error cause =>
      rw [htext] at hrun
      exact hrun
    | ok sql =>
      rw [htext] at hrun
      exact hrun

end

/-- **Empty lists reach the database.**  A condition has a text exactly when no group in it is empty
and no identifier blank, and the text has every empty list in it.  However a request other than an
insert ends, it fails to build only with a flaw of its draft, and then nothing has changed; without
one, every empty list of its conditions is in the text that is sent, or shown if that is asked for. -/
theorem perform_emptyLists (e : Ending ε) (hkind : e.query.draft.kind ≠ .insert)
    (session : Session σ) (r : Recorded σ) (repository : Repository ε) (asked : List String) :
    let d : Desk (Recorded σ) ε := ⟨⟨session.recorded, r⟩, repository, asked⟩
    (∀ (dialect : Dialect) (c : Condition),
      ((∃ s, c.text dialect = .ok s) ↔ ¬ c.Faulty) ∧
      ∀ s, c.text dialect = .ok s → ∀ t ∈ c.terms, t.IsEmptyList →
        Text.PartOf (t.emptyListText dialect) s) ∧
    match e.query.draft.flaw? with
    | some cause => e.perform.run d = (.error (.queryBuild cause), d)
    | none => ∃ sql,
      (∀ t ∈ e.query.draft.terms, t.IsEmptyList →
        Text.PartOf (t.emptyListText e.query.dialect) sql) ∧
      if e.isPreview then e.perform.run d = (.ok (some sql), d)
      else ∀ connection r₁, session.Attains r connection r₁ →
        (e.perform.run d).2.channel.world.statements = r.statements ++ [sql] := by
  intro d
  have hflaw := e.failure?_text session.idField
  have hrun := e.run_perform (show d.channel.session = session.recorded from rfl)
  refine ⟨?_, ?_⟩
  · intro dialect c
    refine ⟨c.exists_text_iff dialect, ?_⟩
    intro s hs t ht hempty
    exact Condition.partOf_text_emptyList hs ht hempty
  · cases htext : e.text session.idField with
    | error cause =>
      rw [htext] at hflaw hrun
      rw [← hflaw]
      exact hrun
    | ok sql =>
      rw [htext] at hflaw hrun
      rw [← hflaw]
      exact ⟨sql, fun t ht hempty => e.partOf_text hkind htext ht hempty, hrun⟩

/-- Two empty lists from JSON, one of them in an `AND` group in an `OR` group. -/
theorem perform_emptyLists_nested :
    let j : Json := .array [.array [.string "id", .array []],
      .array [.array [.string "a", .string "b"], .array [.string "id", .string "NOT IN", .array []]]]
    let c : Condition := .or [.eq "id" (.list []),
      .and [.eq "a" (.text "b"), .compare "id" "NOT IN" (.list [])]]
    let s : Select Row :=
      { dialect := .mysql, idField := "id", options := { table := some "t" }, conditions := [c] }
    let session : Session ScriptLog := { name := "a", config := {}, connector := Script.connector {} }
    let d : Desk (Recorded ScriptLog) Row :=
      ⟨⟨session.recorded, { world := {} }⟩, { ofRow := .ok, table := "t" }, []⟩
    Condition.ofJson j = .ok c ∧ (Query.select s).draft.kind ≠ .insert ∧
      (∃ text, c.text .mysql = .ok text) ∧
      ∃ sql, Text.PartOf "\x60id\x60 IN ()" sql ∧ Text.PartOf "\x60id\x60 NOT IN ()" sql ∧
        ((Ending.terminal (.rows s)).perform.run d).2.channel.world.statements = [sql] := by
  intro j c s session d
  have hkind : (Query.select s).draft.kind ≠ .insert := by decide
  have hattains : session.Attains { world := {} } (Script.connection {})
    { world := { connects := 1 }, connects := 1 } := .opened _ _ rfl rfl
  obtain ⟨htexts, hsent⟩ := perform_emptyLists (.terminal (.rows s)) hkind session { world := {} }
    { ofRow := .ok, table := "t" } []
  have hflaw : (Ending.terminal (.rows s)).query.draft.flaw? = none := rfl
  rw [hflaw] at hsent
  obtain ⟨sql, hlists, hstatements⟩ := hsent
  have hfaulty : ¬ c.Faulty := by
    rw [← c.flaw?_isSome_iff]
    exact Bool.false_ne_true
  have hterms : (Ending.terminal (.rows s)).query.draft.terms
      = [{ identifier := "id", value := some (.list []) },
        { identifier := "a", value := some (.text "b") },
        { identifier := "id", operator := some "NOT IN", value := some (.list []) }] := rfl
  rw [hterms] at hlists
  refine ⟨rfl, hkind, (htexts .mysql c).1.2 hfaulty, sql, ?_, ?_, hstatements _ _ hattains⟩
  · exact hlists { identifier := "id", value := some (.list []) } List.mem_cons_self rfl
  · exact hlists { identifier := "id", operator := some "NOT IN", value := some (.list []) }
      (by simp) rfl

end Ending

end SqlGateway
