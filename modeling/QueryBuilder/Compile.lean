import QueryBuilder.Compile.Definition
import QueryBuilder.Compile.Select
import QueryBuilder.Compile.Write
import QueryBuilder.Query

/-!
# Compilation

A query becomes SQL with a `?` for each value and the list of the values. There is one
dialect, under two driver names.
-/

namespace QueryBuilder
set_option autoImplicit false

/-- The query in SQL. -/
def Query.compile : Query → Except CompileError Fragment
  | select q => .ok q.fragment
  | insert q => q.compile
  | update q => q.compile
  | delete q => q.compile
  | createTable q => .ok q.fragment
  | dropTable q => .ok q.fragment
  | showTables => .ok (.text "SHOW TABLES")

/-- A dialect of SQL. -/
inductive Dialect where
  | mysql
  deriving DecidableEq

namespace Dialect

/-- The dialect of a driver; the case of ASCII letters in its name does not count. -/
def ofDriver (driver : String) : Except Error Dialect :=
  if driver.toLower = "mysql" || driver.toLower = "mariadb" then .ok .mysql
  else .error (.unknownDriver driver)

/-- The query in the dialect. -/
def compile : Dialect → Query → Except Error Fragment
  | .mysql, q => q.compile.mapError .compilation

theorem compile_eq_ok_iff {q : Query} {f : Fragment} :
    Dialect.mysql.compile q = .ok f ↔ q.compile = .ok f := by
  rw [Dialect.compile]
  cases q.compile with
  | error e =>
    constructor
    · intro h
      cases h
    · intro h
      cases h
  | ok g =>
    constructor
    · intro h
      exact congrArg Except.ok (Except.ok.inj h)
    · intro h
      exact congrArg Except.ok (Except.ok.inj h)

theorem compile_eq_error {q : Query} {e : CompileError} (h : q.compile = .error e) :
    Dialect.mysql.compile q = .error (.compilation e) := by
  rw [Dialect.compile, h]
  rfl

end Dialect

end QueryBuilder
