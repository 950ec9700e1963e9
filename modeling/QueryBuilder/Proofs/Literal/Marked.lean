import QueryBuilder.Proofs.Join.Chain
import QueryBuilder.Proofs.Literal.Text

/-!
# Select statements as they are sent

With `?` in the place of each literal the text of a select query is the text of its compiled statement,
whatever characters its names have. The three parts that a statement falls into have texts of their own:
the projection, the core of tables, joins and condition, and the window of order, limit and offset
(`Select.sql_fragment`).
-/

namespace QueryBuilder
set_option autoImplicit false

/-- The placeholder, for every literal. -/
def mark (_ : Value) : String := "?"

theorem Operand.sql_fragment (o : Operand) : o.fragment.sql = o.literalText mark := by
  cases o with
  | value v => rfl
  | column c => exact Column.sql_fragment c

theorem Clause.sql_operandFragment {c : Clause} (h : c.fragment.sql = c.literalText mark) :
    c.operandFragment.sql =
      if c.isComposite then "(" ++ c.literalText mark ++ ")" else c.literalText mark := by
  unfold operandFragment
  cases c.isComposite with
  | true => exact congrArg (fun s => "(" ++ s ++ ")") h
  | false => exact h

theorem Clause.sql_fragment (c : Clause) : c.fragment.sql = c.literalText mark := by
  induction c with
  | compare left op right =>
    simp only [fragment, literalText, Fragment.sql_append, Fragment.sql_text, Column.sql_fragment,
      Operand.sql_fragment]
  | and left right ihLeft ihRight =>
    simp only [fragment_and, literalText, Fragment.sql_append, Fragment.sql_text,
      sql_operandFragment ihLeft, sql_operandFragment ihRight]
  | or left right ihLeft ihRight =>
    simp only [fragment_or, literalText, Fragment.sql_append, Fragment.sql_text,
      sql_operandFragment ihLeft, sql_operandFragment ihRight]

namespace Select

variable (q : Select)

/-- Tables, joins and condition, with placeholders. -/
def coreText : String := q.sourceText ++ q.filterText mark

/-- Order, limit and offset. -/
def windowText : String := q.orderText ++ q.limitText ++ q.offsetText

theorem sql_projectionFragment : q.projectionFragment.sql = q.projectionText := by
  unfold projectionFragment projectionText
  cases q.fields.isEmpty with
  | true => rfl
  | false => simp [Fragment.sql_commaSeparated, Function.comp_def, listText]

theorem sql_sourceFragment : q.sourceFragment.sql = q.sourceText := by
  simp [sourceFragment, sourceText, Fragment.sql_concat_eq_join, Function.comp_def,
    Join.sql_fragment]

theorem sql_filterFragment : q.filterFragment.sql = q.filterText mark := by
  unfold filterFragment filterText
  cases q.filter with
  | none => rfl
  | some c => exact congrArg (" WHERE " ++ ·) c.sql_fragment

theorem sql_coreFragment : q.coreFragment.sql = q.coreText := by
  rw [coreFragment, Fragment.sql_append, sql_sourceFragment, sql_filterFragment, coreText]

theorem sql_orderFragment : q.orderFragment.sql = q.orderText := by
  have key (k : SortKey) : k.fragment.sql = k.text := by
    simp [SortKey.fragment, SortKey.text, Column.sql_fragment]
  unfold orderFragment orderText
  cases q.order.isEmpty with
  | true => rfl
  | false => simp [Fragment.sql_commaSeparated, Function.comp_def, listText, key]

theorem sql_limitFragment : q.limitFragment.sql = q.limitText := by
  unfold limitFragment limitText
  split
  · rfl
  · split <;> rfl

theorem sql_offsetFragment : q.offsetFragment.sql = q.offsetText := by
  unfold offsetFragment offsetText
  split <;> rfl

theorem sql_windowFragment : q.windowFragment.sql = q.windowText := by
  simp only [windowFragment, windowText, Fragment.sql_append, sql_orderFragment, sql_limitFragment,
    sql_offsetFragment]

/-- A select statement is its projection, its core and its window. -/
theorem sql_fragment :
    q.fragment.sql = "SELECT " ++ q.projectionText ++ q.coreText ++ q.windowText := by
  simp only [fragment, Fragment.sql_append, Fragment.sql_text, sql_projectionFragment,
    sql_coreFragment, sql_windowFragment]

end Select

end QueryBuilder
