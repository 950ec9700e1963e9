import QueryBuilder.Column

/-!
# Filter clauses

A clause is a tree with comparisons at its leaves and `AND` / `OR` above them. In SQL an
operand that is itself composite stands in parentheses, so the text keeps the shape of the
tree; literals become placeholders, bound from left to right.
-/

namespace QueryBuilder
set_option autoImplicit false

/-- The comparison operators. -/
inductive Comparison where
  | eq | lt | le | gt | ge
  deriving DecidableEq

/-- The operator as it stands in SQL. -/
def Comparison.symbol : Comparison → String
  | eq => "="
  | lt => "<"
  | le => "<="
  | gt => ">"
  | ge => ">="

/-- What a column is compared with. -/
inductive Operand where
  /-- A literal, bound as a parameter. -/
  | value (v : Value)
  | column (c : Column)
  deriving DecidableEq

/-- The operand as it stands in SQL. -/
def Operand.fragment : Operand → Fragment
  | value v => .param v
  | column c => c.fragment

/-- Equal operands, literals compared by `Value.same`. -/
def Operand.same : Operand → Operand → Bool
  | value v, value v' => v.same v'
  | column c, column c' => c == c'
  | _, _ => false

/-- A condition on rows. -/
inductive Clause where
  | compare (left : Column) (op : Comparison) (right : Operand)
  | and (left right : Clause)
  | or (left right : Clause)
  deriving DecidableEq

namespace Clause

/-- The condition that a column has a value. -/
def eq (column : Column) (v : Value) : Clause := compare column .eq (.value v)

/-- Whether a clause is an `AND` or an `OR`. -/
def isComposite : Clause → Bool
  | compare .. => false
  | and .. | or .. => true

/-- The clause as it stands in SQL. -/
def fragment : Clause → Fragment
  | compare left op right =>
    left.fragment ++ .text " " ++ .text op.symbol ++ .text " " ++ right.fragment
  | and left right =>
    (if left.isComposite then left.fragment.enclosed else left.fragment) ++ .text " AND " ++
      (if right.isComposite then right.fragment.enclosed else right.fragment)
  | or left right =>
    (if left.isComposite then left.fragment.enclosed else left.fragment) ++ .text " OR " ++
      (if right.isComposite then right.fragment.enclosed else right.fragment)

/-- The clause as an operand of a connective. -/
def operandFragment (c : Clause) : Fragment :=
  if c.isComposite then c.fragment.enclosed else c.fragment

theorem fragment_and (left right : Clause) : (and left right).fragment =
    left.operandFragment ++ .text " AND " ++ right.operandFragment := by
  rw [fragment]
  rfl

theorem fragment_or (left right : Clause) : (or left right).fragment =
    left.operandFragment ++ .text " OR " ++ right.operandFragment := by
  rw [fragment]
  rfl

theorem params_operandFragment (c : Clause) : c.operandFragment.params = c.fragment.params := by
  unfold operandFragment
  split
  · exact Fragment.params_enclosed _
  · rfl

/-- Trees of the same shape with the same comparisons, literals compared by `Value.same`. -/
def same : Clause → Clause → Bool
  | compare l op r, compare l' op' r' => l == l' && op == op' && r.same r'
  | and l r, and l' r' => l.same l' && r.same r'
  | or l r, or l' r' => l.same l' && r.same r'
  | _, _ => false

end Clause

end QueryBuilder
