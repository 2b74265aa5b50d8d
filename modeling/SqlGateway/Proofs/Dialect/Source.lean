import SqlGateway.Proofs.Dialect.Parts
import SqlGateway.Proofs.Sql.Source

/-!
# Sources of selects

How the table and the joins of a select are written, and what is read back.
`joinClause` puts a comma between two joins.  So the source is a sentence as
long as it has one join at most, and with more of them it is a table with its
first join and, behind each comma, a join without a table.

    source? d (sourceText d o) = some joins   iff   there is at most one of them
-/

namespace SqlGateway.Sql

open Expression (parts?)

/-! ## Texts -/

section

variable {d : Dialect} {o : QueryOptions} {table : String} {t : TableRef} {a : Option String}

theorem joinClause_specs (d : Dialect) (s : JoinSpec) (specs : List JoinSpec) :
    d.joinClause ((s :: specs).map .spec)
      = [", ".intercalate ((s :: specs).map fun s => d.joinText (.spec s))] := by
  have hkept : (((s :: specs).map Join.spec).map d.joinText).filter
      (fun j => !Text.isBlankText j) = (s :: specs).map fun s => d.joinText (.spec s) := by
    rw [List.map_map]
    refine List.filter_eq_self.2 fun text htext => ?_
    obtain ⟨spec, -, rfl⟩ := List.mem_map.1 htext
    simp [Dialect.joinText_notBlank]
  unfold Dialect.joinClause
  rw [hkept]
  rfl

/-- A table by its name is read as such, whatever it is called. -/
theorem tableReading?_named (hderived : isDerived table = false)
    (halias : ∀ w, o.tableAlias.bind Text.nonBlank? = some w → isPlainName d w = true) :
    tableReading? d o table
      = some (.named (nameParts d table), o.tableAlias.bind Text.nonBlank?) := by
  have hne := nameParts_ne_nil d table
  have htokens : tableTokens? d table = some (nameTokens (nameParts d table)) := by
    simp [tableTokens?, hderived]
  rw [tableReading?, htokens]
  cases ha : o.tableAlias.bind Text.nonBlank? with
  | none => simpa using reference?_unnamed hne
  | some w =>
    have hw := halias w ha
    simpa [hw] using reference?_named hne hw

theorem spells_tableSql {ts : List Token} (h : tableTokens? d table = some ts) :
    Spells d (d.tableSql table).toList ts := by
  rw [tableTokens?] at h
  rw [Dialect.tableSql]
  cases hderived : isDerived table with
  | true =>
    rw [if_pos hderived] at h
    exact spells_of_tokens? h
  | false =>
    rw [if_neg (by simp [hderived])] at h
    cases h
    exact spells_quoteIdentifier d table

/-- The tokens of a table with its alias. -/
theorem spells_head (h : tableReading? d o table = some (t, a)) :
    ∃ ts, Spells d (d.tableSql table ++ trailed (aliasPart o)).toList ts ∧
      reference? d ts = some (t, a) := by
  unfold tableReading? at h
  split at h
  · next halias =>
    obtain ⟨ts, hts, href⟩ := Option.bind_eq_some_iff.1 h
    have htable := spells_tableSql hts
    refine ⟨_, ?_, href⟩
    unfold aliasPart
    cases hname : o.tableAlias.bind Text.nonBlank? with
    | none => simpa [trailed_nil] using htable
    | some w =>
      rw [hname] at halias
      have hspaced := htable.spaced (spells_word d (isWord_plainName halias))
      simpa [trailed_cons, trailed_nil] using hspaced
  · cases h

section

variable {head : String} {ts : List Token} {specs : List JoinSpec} {js : List Joined}

/-- Joins with a blank in front of each. -/
theorem spells_trailed (hhead : Spells d head.toList ts)
    (h : List.Forall₂ (fun s j => joinReading? d s = some j) specs js) :
    Spells d (head ++ trailed (specs.map fun s => d.joinText (.spec s))).toList
      (ts ++ joinsBehind d [] specs) := by
  induction h generalizing head ts with
  | nil => simpa [trailed_nil, joinsBehind] using hhead
  | @cons s j specs js hs _ ih =>
    have hfirst : Spells d (head ++ (" " ++ d.joinText (.spec s))).toList
        (ts ++ joinTokens d s) := by
      simpa using hhead.spaced (spells_joinText hs)
    simpa [trailed_cons, joinsBehind, String.append_assoc] using ih hfirst

theorem spells_joinTexts (h : List.Forall₂ (fun s j => joinReading? d s = some j) specs js) :
    List.Forall₂ (Spells d) (specs.map fun s => (d.joinText (.spec s)).toList)
      (specs.map (joinTokens d)) := by
  induction h with
  | nil => exact .nil
  | cons hs _ ih => exact .cons (spells_joinText hs) ih

/-- Joins with a comma between any two of them. -/
theorem spells_listed (hhead : Spells d head.toList ts) {s : JoinSpec}
    (h : List.Forall₂ (fun s j => joinReading? d s = some j) (s :: specs) js) :
    Spells d (head ++ trailed (d.joinClause ((s :: specs).map .spec))).toList
      (listedTokens d ts s specs) := by
  have hcomma : ∀ more,
      tokens? d (", ".toList ++ more) = (tokens? d more).map ([.mark ','] ++ ·) := by
    intro more
    show tokens? d (',' :: ' ' :: more) = _
    rw [tokens?_cons (token?_mark d ',' _ (by decide)), tokens?_space]
    rfl
  have hjoins := hhead.spaced (spells_intercalate (fun more => delimited_comma _) hcomma
    (spells_joinTexts h))
  have htext : (head ++ trailed (d.joinClause ((s :: specs).map .spec))).toList
      = head.toList ++ ' ' :: ", ".toList.intercalate
        ((s :: specs).map fun s => (d.joinText (.spec s)).toList) := by
    rw [joinClause_specs, trailed_cons, trailed_nil, String.append_empty, String.toList_append,
      String.toList_append, String.toList_intercalate, List.map_map]
    rfl
  have htokens : listedTokens d ts s specs
      = ts ++ [.mark ','].intercalate ((s :: specs).map (joinTokens d)) := by
    rw [List.map_cons, intercalate_cons, listedTokens, joinsBehind, List.append_assoc,
      List.flatMap_map]
  rw [htext, htokens]
  exact hjoins

end

/-! ## Readings -/

/-- What a source with any number of joins is read as. -/
theorem source?_sourceText (hread : tableReading? d o table = some (t, a)) {specs : List JoinSpec}
    {js : List Joined} (h : List.Forall₂ (fun s j => joinReading? d s = some j) specs js) :
    source? d (d.sourceText { o with joins := specs.map .spec } table)
      = (if specs.length ≤ 1 then some ⟨t, a, js⟩ else none) ∧
    listedSource? d (d.sourceText { o with joins := specs.map .spec } table)
      = some ⟨t, a, js⟩ := by
  obtain ⟨ts, hhead, href⟩ := spells_head hread
  have htext : d.sourceText { o with joins := specs.map .spec } table
      = d.tableSql table ++ trailed (aliasPart o) ++ trailed (d.joinClause (specs.map .spec)) := by
    show d.tableSql table ++ trailed (aliasPart o ++ d.joinClause (specs.map .spec)) = _
    rw [trailed_append, String.append_assoc]
  have hundivided := (undivided_reference href).whole isComma_divider
  rw [htext, source?, listedSource?]
  cases h with
  | nil =>
    have htokens := hhead.tokens?
    have hsource := sourceOf?_joins href (.nil (R := fun s j => joinReading? d s = some j))
    rw [joinsBehind, List.flatMap_nil, List.append_nil] at hsource
    have hclause : trailed (d.joinClause ([].map Join.spec)) = "" := rfl
    rw [hclause, String.append_empty, htokens]
    simp [hsource, hundivided]
  | @cons s j specs js hs hrest =>
    have htokens := (spells_listed hhead (.cons hs hrest)).tokens?
    have hfirst := sourceOf?_joins href (.cons hs .nil)
    have hparts := parts?_listed
      (Expression.parts?_append_whole hundivided (parts?_joinTokens hs)) hrest
    have hlisted : parts? d isComma [] (listedTokens d ts s specs)
        = some ((ts ++ joinTokens d s) :: specs.map (joinTokens d)) := hparts
    have hsingle : joinsBehind d [] [s] = joinTokens d s := by simp [joinsBehind]
    rw [hsingle] at hfirst
    rw [htokens]
    refine ⟨?_, ?_⟩
    · cases hrest with
      | nil =>
        have hnone : listedTokens d ts s [] = ts ++ joinTokens d s := by
          simp [listedTokens, joinsBehind]
        simp [hnone, hfirst]
      | @cons s' j' specs js hs' hrest =>
        simpa using sourceOf?_listed href hs (.cons hs' hrest)
    · simp [hlisted, hfirst, mapM_join? hrest]

/-- **Joins behind a table.**  The joins of a select stand, in order, in one place between its table
and its conditions.  With one join at most the source is a sentence and is read back; with more of
them it is none, as every join but the last has a comma behind it, though it is a list of them and
blanks in place of the commas would make it a sentence. -/
theorem renderSelect_source (d : Dialect) (idField : String) (o : QueryOptions)
    {table what : String} {t : TableRef} {a : Option String} (htable : o.tableName = .ok table)
    (hwhat : d.selectList o table = .ok what) (hread : tableReading? d o table = some (t, a)) :
    ∃ before after : String, ∀ (specs : List JoinSpec) (js : List Joined),
      specs.mapM (joinReading? d) = some js →
        d.renderSelect idField { o with joins := specs.map .spec }
          = .ok (before ++ " FROM " ++ d.sourceText { o with joins := specs.map .spec } table
            ++ clauseText "WHERE" o.conditions ++ after) ∧
        source? d (d.sourceText { o with joins := specs.map .spec } table)
          = (if specs.length ≤ 1 then some ⟨t, a, js⟩ else none) ∧
        listedSource? d (d.sourceText { o with joins := specs.map .spec } table)
          = some ⟨t, a, js⟩ ∧
        source? d (d.tableSql table ++ trailed (aliasPart o)
          ++ trailed (specs.map fun s => d.joinText (.spec s))) = some ⟨t, a, js⟩ := by
  refine ⟨d.openingText idField o what, trailed (groupByClause o) ++ clauseText "HAVING" o.having
    ++ d.closingText o, fun specs js hjs => ?_⟩
  have h := Expression.mapM_eq_some_iff.1 hjs
  obtain ⟨hsource, hlisted⟩ := source?_sourceText hread h
  refine ⟨?_, hsource, hlisted, ?_⟩
  · rw [Dialect.renderSelect_eq (o := { o with joins := specs.map .spec }) idField htable hwhat]
    rfl
  · obtain ⟨ts, hhead, href⟩ := spells_head hread
    rw [source?, (spells_trailed hhead h).tokens?, Option.bind_some, sourceOf?_joins href h]

/-- Two joins in MySQL, which a server refuses for the comma between them and takes with a blank. -/
theorem renderSelect_source_two :
    let first : JoinSpec :=
      { table := "a", tableAlias := "x", condition := "x.id = t.a", mandatory := true }
    let second : JoinSpec :=
      { table := "b", tableAlias := "y", condition := "y.id = t.b", mandatory := false }
    let o : QueryOptions := { table := some "t" }
    o.tableName = .ok "t" ∧ Dialect.selectList .mysql o "t" = .ok "`t`.*" ∧
      tableReading? .mysql o "t" = some (.named ["t"], none) ∧
      ∃ j j', [first, second].mapM (joinReading? .mysql) = some [j, j'] ∧
        source? .mysql "`t` INNER JOIN `a` x ON x.id = t.a, LEFT JOIN `b` y ON y.id = t.b" = none ∧
        source? .mysql "`t` INNER JOIN `a` x ON x.id = t.a LEFT JOIN `b` y ON y.id = t.b"
          = some ⟨.named ["t"], none, [j, j']⟩ := by
  intro first second o
  have htable : o.tableName = .ok "t" := rfl
  have hwhat : Dialect.selectList .mysql o "t" = .ok "`t`.*" := rfl
  have hread : tableReading? .mysql o "t" = some (.named ["t"], none) :=
    tableReading?_named (by decide) (by simp [o])
  obtain ⟨before, after, h⟩ := renderSelect_source .mysql "id" o htable hwhat hread
  obtain ⟨j, hfirst⟩ : ∃ j, joinReading? .mysql first = some j :=
    Option.isSome_iff_exists.1 (by decide +kernel)
  obtain ⟨j', hsecond⟩ : ∃ j', joinReading? .mysql second = some j' :=
    Option.isSome_iff_exists.1 (by decide +kernel)
  have hjoins := Expression.mapM_eq_some_iff.2 (.cons hfirst (.cons hsecond .nil))
  obtain ⟨-, hsource, -, hblank⟩ := h [first, second] _ hjoins
  have hcomma : Dialect.sourceText .mysql { o with joins := [first, second].map .spec } "t"
    = "`t` INNER JOIN `a` x ON x.id = t.a, LEFT JOIN `b` y ON y.id = t.b" := by decide +kernel
  have hspace : Dialect.tableSql .mysql "t" ++ trailed (aliasPart o)
      ++ trailed ([first, second].map fun s => Dialect.joinText .mysql (.spec s))
    = "`t` INNER JOIN `a` x ON x.id = t.a LEFT JOIN `b` y ON y.id = t.b" := by decide +kernel
  rw [hcomma] at hsource
  rw [hspace] at hblank
  exact ⟨htable, hwhat, hread, j, j', hjoins, hsource, hblank⟩

end

end SqlGateway.Sql
