import QueryBuilder.Value

/-!
# Pieces of SQL

A fragment is a text with placeholders and the values of its placeholders in order. Fragments
are joined by `++`, which joins the texts and the values, so what a fragment contributes does
not depend on what stands before it (`sql_concat`, `params_concat`).
-/

namespace QueryBuilder
set_option autoImplicit false

/-- SQL text with a `?` for each parameter, and the parameters in the order of their `?`. -/
structure Fragment where
  sql : String
  params : List Value
  deriving DecidableEq

namespace Fragment

/-- The fragment without text. -/
def empty : Fragment := ⟨"", []⟩

/-- Text that binds nothing. -/
def text (s : String) : Fragment := ⟨s, []⟩

/-- A placeholder bound to a value. -/
def param (v : Value) : Fragment := ⟨"?", [v]⟩

/-- One fragment after another. -/
def append (a b : Fragment) : Fragment := ⟨a.sql ++ b.sql, a.params ++ b.params⟩

instance : Append Fragment := ⟨append⟩

/-- All fragments one after another. -/
def concat : List Fragment → Fragment
  | [] => empty
  | a :: rest => a ++ concat rest

/-- The fragments with a comma and a blank between neighbours. -/
def commaSeparated : List Fragment → Fragment
  | [] => empty
  | [a] => a
  | a :: b :: rest => a ++ text ", " ++ commaSeparated (b :: rest)

/-- The fragment in parentheses. -/
def enclosed (a : Fragment) : Fragment := text "(" ++ a ++ text ")"

/-- The same text with the same values, as `Value.same` compares them. -/
def same (a b : Fragment) : Bool :=
  a.sql == b.sql && a.params.length == b.params.length &&
    (a.params.zip b.params).all fun p => p.1.same p.2

@[simp] theorem sql_append (a b : Fragment) : (a ++ b).sql = a.sql ++ b.sql := rfl

@[simp] theorem params_append (a b : Fragment) : (a ++ b).params = a.params ++ b.params := rfl

@[simp] theorem sql_text (s : String) : (text s).sql = s := rfl

@[simp] theorem params_text (s : String) : (text s).params = [] := rfl

@[simp] theorem sql_param (v : Value) : (param v).sql = "?" := rfl

@[simp] theorem params_param (v : Value) : (param v).params = [v] := rfl

@[simp] theorem sql_enclosed (a : Fragment) : a.enclosed.sql = "(" ++ a.sql ++ ")" := rfl

@[simp] theorem params_enclosed (a : Fragment) : a.enclosed.params = a.params := by
  simp [enclosed]

theorem append_assoc (a b c : Fragment) : a ++ b ++ c = a ++ (b ++ c) := by
  show Fragment.mk _ _ = Fragment.mk _ _
  simp [String.append_assoc]

theorem sql_concat (as : List Fragment) :
    (concat as).sql.toList = as.flatMap fun a => a.sql.toList := by
  induction as with
  | nil => simp [concat, empty]
  | cons a rest ih => simp [concat, ih]

theorem sql_concat_eq_join (as : List Fragment) : (concat as).sql = String.join (as.map sql) := by
  induction as with
  | nil => rfl
  | cons a rest ih => rw [concat, sql_append, ih, List.map_cons, String.join_cons]

theorem params_concat (as : List Fragment) : (concat as).params = as.flatMap params := by
  induction as with
  | nil => rfl
  | cons a rest ih => simp [concat, ih]

theorem sql_commaSeparated (as : List Fragment) :
    (commaSeparated as).sql = ", ".intercalate (as.map sql) := by
  induction as with
  | nil => simp [commaSeparated, empty]
  | cons a as ih =>
    cases as with
    | nil => simp [commaSeparated]
    | cons b as =>
      rw [List.map_cons, List.map_cons, String.intercalate_cons_cons, commaSeparated, sql_append,
        sql_append, ih]
      rfl

theorem sql_commaSeparated_cons (a : Fragment) (as : List Fragment) :
    (commaSeparated (a :: as)).sql.toList =
      a.sql.toList ++ as.flatMap fun b => ',' :: ' ' :: b.sql.toList := by
  induction as generalizing a with
  | nil => simp [commaSeparated]
  | cons b as ih =>
    rw [commaSeparated, sql_append, String.toList_append, ih, List.flatMap_cons]
    simp

theorem params_commaSeparated (as : List Fragment) :
    (commaSeparated as).params = as.flatMap params := by
  induction as with
  | nil => rfl
  | cons a as ih =>
    cases as with
    | nil => simp [commaSeparated]
    | cons b as =>
      rw [commaSeparated, params_append, params_append, ih]
      simp

end Fragment

end QueryBuilder
