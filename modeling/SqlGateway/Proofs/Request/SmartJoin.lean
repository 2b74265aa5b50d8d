import SqlGateway.Proofs.Sql.Insertion
import SqlGateway.Proofs.Sql.Source
import SqlGateway.Request.Select

/-!
# Smart joins

The condition of a smart join has a name on either side of an equals sign: that
of a field of the joined table and that of a field of the request's entity.
`equation?` takes it apart into the parts of both names.  MySQL and PostgreSQL
take a dot for what divides a name; SQL Server quotes the whole of it, and reads
a single name in which a dot stands.

    MySQL, PostgreSQL   equation? condition = ([alias, theirField], [entity, myField])
    SQL Server          equation? condition = (["alias.theirField"], ["entity.myField"])
-/

namespace SqlGateway

namespace Sql

/-! ## Algorithm -/

/-- The parts of two names with an equals sign between them. -/
def equation? (d : Dialect) (s : String) : Option (List String × List String) :=
  match (tokens? d s.toList).bind (Expression.parts? d isEquals []) with
  | some [left, right] =>
    (nameParts? left).bind fun left => (nameParts? right).map fun right => (left, right)
  | _ => none

/-- What `owner.field` is taken for. -/
def fieldParts (d : Dialect) (owner field : String) : List String :=
  nameParts d (owner ++ "." ++ field)

/-! ## Parts -/

theorem splitChars_cons_ne {c x : Char} (hx : x ≠ c) {cs p : List Char} {ps : List (List Char)}
    (h : Text.splitChars c cs = p :: ps) : Text.splitChars c (x :: cs) = (x :: p) :: ps := by
  rw [Text.splitChars, if_neg hx, h]

theorem splitChars_append (c : Char) (xs ys : List Char) :
    Text.splitChars c (xs ++ c :: ys) = Text.splitChars c xs ++ Text.splitChars c ys := by
  induction xs with
  | nil => simp [Text.splitChars]
  | cons x xs ih =>
    by_cases hx : x = c
    · subst hx
      simp [Text.splitChars, ih]
    · obtain ⟨p, ps, hp⟩ := List.exists_cons_of_ne_nil (Text.splitChars_ne_nil c xs)
      have happend : Text.splitChars c (xs ++ c :: ys) = p :: (ps ++ Text.splitChars c ys) := by
        rw [ih, hp, List.cons_append]
      rw [List.cons_append, splitChars_cons_ne hx happend, splitChars_cons_ne hx hp,
        List.cons_append]

theorem splitChars_of_notMem {c : Char} {cs : List Char} (h : c ∉ cs) :
    Text.splitChars c cs = [cs] := by
  induction cs with
  | nil => rfl
  | cons x xs ih =>
    obtain ⟨hx, hxs⟩ := List.ne_and_not_mem_of_not_mem_cons h
    exact splitChars_cons_ne (Ne.symm hx) (ih hxs)

theorem splitAt_dotted (a b : String) :
    Text.splitAt '.' (a ++ "." ++ b) = Text.splitAt '.' a ++ Text.splitAt '.' b := by
  have hchars : (a ++ "." ++ b).toList = a.toList ++ '.' :: b.toList := by simp
  rw [Text.splitAt, hchars, splitChars_append, List.map_append]
  rfl

theorem splitAt_undotted {s : String} (h : '.' ∉ s.toList) : Text.splitAt '.' s = [s] := by
  rw [Text.splitAt, splitChars_of_notMem h, List.map_cons, String.ofList_toList]
  rfl

theorem fieldParts_mssql (owner field : String) :
    fieldParts .mssql owner field = [owner ++ "." ++ field] := rfl

theorem fieldParts_of_ne {d : Dialect} (hd : d ≠ .mssql) (owner field : String) :
    fieldParts d owner field = Text.splitAt '.' owner ++ Text.splitAt '.' field := by
  rw [fieldParts, nameParts, if_neg hd, splitAt_dotted]

/-- No two owners have a field of the same name parts. -/
theorem fieldParts_inj {d : Dialect} {owner owner' field : String}
    (h : fieldParts d owner field = fieldParts d owner' field) : owner = owner' := by
  cases d with
  | mssql =>
    have htext := List.singleton_inj.1 (show [_] = [_] from h)
    simpa using htext
  | mysql | pgsql =>
    rw [fieldParts_of_ne (by decide), fieldParts_of_ne (by decide)] at h
    have howner := List.append_cancel_right h
    rw [← intercalate_splitAt '.' owner, howner, intercalate_splitAt]

/-! ## Equations -/

theorem spells_equals (d : Dialect) : Spells d ['='] [.symbol "="] :=
  spells_of_tokens? (by cases d <;> decide)

/-- Two quoted names and an equals sign are an equation of their parts. -/
theorem equation?_quoted (d : Dialect) (left right : String) :
    equation? d (d.quoteIdentifier left ++ " = " ++ d.quoteIdentifier right)
      = some (nameParts d left, nameParts d right) := by
  have htokens := ((spells_quoteIdentifier d left).spaced
    ((spells_equals d).spaced (spells_quoteIdentifier d right))).tokens?
  have htext : (d.quoteIdentifier left ++ " = " ++ d.quoteIdentifier right).toList
      = (d.quoteIdentifier left).toList
        ++ ' ' :: (['='] ++ ' ' :: (d.quoteIdentifier right).toList) := by
    simp
  have hparts := Expression.parts?_append_sep
    (parts?_nameTokens d (nameParts d left) (by decide : isEquals (.mark '.') = false) fun _ => rfl)
    (by decide : isEquals (.symbol "=") = true)
    (parts?_nameTokens d (nameParts d right) (by decide) fun _ => rfl)
  rw [equation?, htext, htokens, Option.bind_some, List.singleton_append, hparts]
  show ((nameParts? _).bind fun left => (nameParts? _).map fun right => (left, right)) = _
  rw [nameParts?_nameTokens (nameParts_ne_nil d left),
    nameParts?_nameTokens (nameParts_ne_nil d right), Option.bind_some, Option.map_some]

end Sql

/-! ## Joins -/

namespace Select

open Sql (equation? fieldParts)

variable {ε : Type} (s : Select ε) (table : String) (tableAlias myField : Option String)
  (theirField : String) (mandatory : Bool)

/-- The join that a smart join comes to. -/
def smartSpec : JoinSpec where
  table
  tableAlias := tableAlias.getD s.joinAlias
  condition := s.dialect.quoteIdentifier (tableAlias.getD s.joinAlias ++ "." ++ theirField) ++ " = "
    ++ s.dialect.quoteIdentifier (s.entityName ++ "." ++ myField.getD s.idField)
  mandatory

theorem joinSmart_eq :
    s.joinSmart table tableAlias myField theirField mandatory
      = s.join (.spec (s.smartSpec table tableAlias myField theirField mandatory)) := rfl

/-- The condition of a smart join is read as it is meant, as far as the dialect divides names. -/
theorem equation?_smartSpec :
    equation? s.dialect (s.smartSpec table tableAlias myField theirField mandatory).condition
      = some (fieldParts s.dialect (tableAlias.getD s.joinAlias) theirField,
          fieldParts s.dialect s.entityName (myField.getD s.idField)) :=
  Sql.equation?_quoted s.dialect _ _

/-- **Fields of a smart join.**  For names without dots, the join that is added compares the field
of the joined table with the one of the entity in MySQL and PostgreSQL.  In SQL Server it compares
two names that have no parts, and so none of a table. -/
theorem joinSmart_fields
    (hdots : ∀ name ∈ [tableAlias.getD s.joinAlias, theirField, s.entityName,
      myField.getD s.idField], '.' ∉ name.toList) :
    ∃ j : JoinSpec,
      s.joinSmart table tableAlias myField theirField mandatory = s.join (.spec j) ∧
      j.table = table ∧ j.tableAlias = tableAlias.getD s.joinAlias ∧ j.mandatory = mandatory ∧
      equation? s.dialect j.condition = some (
        if s.dialect = .mssql then
          ([j.tableAlias ++ "." ++ theirField], [s.entityName ++ "." ++ myField.getD s.idField])
        else ([j.tableAlias, theirField], [s.entityName, myField.getD s.idField])) := by
  refine ⟨s.smartSpec table tableAlias myField theirField mandatory, joinSmart_eq .., rfl, rfl, rfl,
    ?_⟩
  have hsplit : ∀ name ∈ [tableAlias.getD s.joinAlias, theirField, s.entityName,
      myField.getD s.idField], Text.splitAt '.' name = [name] :=
    fun name hname => Sql.splitAt_undotted (hdots name hname)
  simp only [List.forall_mem_cons] at hsplit
  obtain ⟨halias, htheirs, hentity, hmine, -⟩ := hsplit
  rw [equation?_smartSpec]
  by_cases hd : s.dialect = .mssql
  · rw [if_pos hd, hd, Sql.fieldParts_mssql, Sql.fieldParts_mssql]
    rfl
  · rw [if_neg hd, Sql.fieldParts_of_ne hd, Sql.fieldParts_of_ne hd, halias, htheirs, hentity,
      hmine]
    rfl

/-- In SQL Server the groups of users are joined on two fields that no table has. -/
theorem joinSmart_fields_users :
    let s : Select Row :=
      { dialect := .mssql, idField := "id", options := { table := some "users" } }
    (∀ name ∈ [s.joinAlias, "id", s.entityName, "group_id"], '.' ∉ name.toList) ∧
      ∃ j : JoinSpec,
        s.joinSmart "groups" none (some "group_id") "id" true = s.join (.spec j) ∧
        j.tableAlias = "j1" ∧
        equation? .mssql j.condition = some (["j1.id"], ["users.group_id"]) := by
  intro s
  have hdots : ∀ name ∈ [s.joinAlias, "id", s.entityName, "group_id"], '.' ∉ name.toList := by
    decide
  obtain ⟨j, hj, -, halias, -, hread⟩ :=
    joinSmart_fields s "groups" none (some "group_id") "id" true hdots
  have hname : j.tableAlias = "j1" := by
    rw [halias]
    decide
  refine ⟨hdots, j, hj, hname, ?_⟩
  rw [hname] at hread
  exact hread

end Select

end SqlGateway
