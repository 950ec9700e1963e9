import QueryBuilder.Compile.Select
import QueryBuilder.Proofs.Sql.Condition

/-!
# Tokens of select statements

What stands after the projection is made of tokens: `FROM` and the table, then, as far as the
query has them, joins, `WHERE` with a condition, `ORDER BY` with sort keys, `LIMIT` and `OFFSET`.
`bodyTokens` lists them. It shows what a statement keeps of a query: of a join only its
`Join.Phrase`, of limit and offset only `Select.statedLimit` and the offset. A projected field may
be a call such as `COUNT(1)`, so the projection is not split into tokens.
-/

namespace QueryBuilder
set_option autoImplicit false

/-- What a statement says of a join. -/
structure Join.Phrase where
  kind : JoinKind
  table : String
  on : Relation
  deriving DecidableEq

def Join.phrase (j : Join) : Phrase := ⟨j.kind, j.right.table, j.on⟩

/-- The limit in the statement, 0 if there is none. -/
def Select.statedLimit (q : Select) : UInt64 :=
  if q.limit = 0 ∧ 0 < q.offset then unboundedLimit else q.limit

namespace Sql

/-! ## Token lists -/

/-- The word that tells the kind of a join. -/
def kindWord : JoinKind → String
  | .inner => "INNER"
  | .left => "LEFT"
  | .right => "RIGHT"

def joinTokens (p : Join.Phrase) : List Token :=
  [.word (kindWord p.kind), .word "JOIN", .word p.table, .word "ON", .name p.on.foreignKey,
    .comparison .eq, .name p.on.primaryKey]

def filterTokens : Option Clause → List Token
  | none => []
  | some c => .word "WHERE" :: clauseTokens c

def keyTokens (k : SortKey) : List Token := [.name k.column, .word k.direction.keyword]

def orderTokens : List SortKey → List Token
  | [] => []
  | k :: ks => .word "ORDER" :: .word "BY" :: keyTokens k ++ ks.flatMap fun k => .comma :: keyTokens k

/-- The numeral of a count of rows. -/
def numeral (n : UInt64) : Token := .word (.ofList (Number.digits n.toNat))

/-- A count of rows with its keyword, if the count is not 0. -/
def countTokens (keyword : String) (n : UInt64) : List Token :=
  if 0 < n then [.word keyword, numeral n] else []

def windowTokens (q : Select) : List Token :=
  orderTokens q.order ++ (countTokens "LIMIT" q.statedLimit ++ countTokens "OFFSET" q.offset)

/-- The tokens after the projection. -/
def bodyTokens (q : Select) : List Token :=
  .word "FROM" :: .word q.model.table :: ((q.joins.map Join.phrase).flatMap joinTokens ++
    (filterTokens q.filter ++ windowTokens q))

/-! ## Pieces of the statement -/

theorem scans_keyword (kind : JoinKind) :
    Scans kind.keyword.toList [.word (kindWord kind), .word "JOIN"] := by
  have second := scans_word (w := "JOIN") (by decide)
  cases kind with
  | inner => exact (scans_word (w := "INNER") (by decide)).spaced second
  | left => exact (scans_word (w := "LEFT") (by decide)).spaced second
  | right => exact (scans_word (w := "RIGHT") (by decide)).spaced second

theorem scans_join {j : Join} (h : ∀ s ∈ j.names, Plain s) :
    Scans j.fragment.sql.toList (joinTokens j.phrase) := by
  have table : Plain j.right.table := h _ List.mem_cons_self
  have foreignKey := scans_column fun s hs =>
    h s (List.mem_cons_of_mem _ (List.mem_append_left _ hs))
  have primaryKey := scans_column fun s hs =>
    h s (List.mem_cons_of_mem _ (List.mem_append_right _ hs))
  have condition := foreignKey.spaced ((scans_symbol .eq).spaced primaryKey)
  have whole := (scans_keyword j.kind).spaced
    ((scans_word table).spaced ((scans_word (w := "ON") (by decide)).spaced condition))
  simpa [Join.fragment, Column.sql_fragment, joinTokens, Join.phrase, Comparison.symbol] using whole

theorem follows_joins {js : List Join} (h : ∀ j ∈ js, ∀ s ∈ j.names, Plain s) :
    Follows (Fragment.concat (js.map fun j => .text " " ++ j.fragment)).sql.toList
      ((js.map Join.phrase).flatMap joinTokens) := by
  have each := follows_flatMap fun j hj => (scans_join (h j hj)).after_blank
  rw [Fragment.sql_concat, List.flatMap_map, List.flatMap_map]
  simpa using each

theorem follows_filter {q : Select} (h : ∀ c ∈ q.filter, ∀ s ∈ c.names, Plain s) :
    Follows q.filterFragment.sql.toList (filterTokens q.filter) := by
  unfold Select.filterFragment
  cases hq : q.filter with
  | none => exact follows_nil
  | some c =>
    have condition := scans_clause (h c hq)
    have whole := ((scans_word (w := "WHERE") (by decide)).spaced condition).after_blank
    simpa [filterTokens] using whole

theorem scans_key {k : SortKey} (h : ∀ s ∈ k.column.names, Plain s) :
    Scans k.fragment.sql.toList (keyTokens k) := by
  have direction : Plain k.direction.keyword := by cases k.direction <;> decide
  have whole := (scans_column h).spaced (scans_word direction)
  simpa [SortKey.fragment, Column.sql_fragment, keyTokens] using whole

theorem follows_order {q : Select} (h : ∀ k ∈ q.order, ∀ s ∈ k.column.names, Plain s) :
    Follows q.orderFragment.sql.toList (orderTokens q.order) := by
  unfold Select.orderFragment
  cases hq : q.order with
  | nil => exact follows_nil
  | cons k ks =>
    rw [hq] at h
    have list := scans_list fun k' hk' => scans_key (h k' hk')
    have keys := (scans_word (w := "BY") (by decide)).spaced list
    have whole := ((scans_word (w := "ORDER") (by decide)).spaced keys).after_blank
    rw [if_neg (by simp), Fragment.sql_append, String.toList_append]
    simpa [orderTokens, listTokens] using whole

/-- A count of rows with its keyword, if the count is not 0. -/
def countFragment (keyword : String) (n : UInt64) : Fragment :=
  if 0 < n then .text (" " ++ keyword ++ " ") ++ Select.rowCount n else .empty

theorem limitFragment_eq (q : Select) : q.limitFragment = countFragment "LIMIT" q.statedLimit := by
  unfold Select.limitFragment Select.statedLimit
  by_cases limited : 0 < q.limit
  · have nonzero : ¬ q.limit = 0 := fun h => UInt64.lt_irrefl _ (h ▸ limited)
    rw [if_pos limited, if_neg fun h => nonzero h.1, countFragment, if_pos limited]
    rfl
  · have zero : q.limit = 0 := UInt64.le_zero_iff.1 (UInt64.not_lt.1 limited)
    rw [if_neg limited]
    by_cases skipping : 0 < q.offset
    · rw [if_pos skipping, if_pos ⟨zero, skipping⟩]
      rfl
    · rw [if_neg skipping, if_neg fun h => skipping h.2, countFragment, if_neg limited]

theorem offsetFragment_eq (q : Select) : q.offsetFragment = countFragment "OFFSET" q.offset := rfl

theorem follows_count {keyword : String} (h : Plain keyword) (n : UInt64) :
    Follows (countFragment keyword n).sql.toList (countTokens keyword n) := by
  unfold countFragment countTokens
  by_cases positive : 0 < n
  · have whole := ((scans_word h).spaced (scans_word (plain_digits n.toNat))).after_blank
    rw [if_pos positive, if_pos positive]
    simpa [Select.rowCount, numeral] using whole
  · rw [if_neg positive, if_neg positive]
    exact follows_nil

theorem follows_window {q : Select} (h : ∀ k ∈ q.order, ∀ s ∈ k.column.names, Plain s) :
    Follows q.windowFragment.sql.toList (windowTokens q) := by
  have limitPlain : Plain "LIMIT" := by decide
  have offsetPlain : Plain "OFFSET" := by decide
  have limit := follows_count limitPlain q.statedLimit
  have offset := follows_count offsetPlain q.offset
  have whole := (follows_order h).append (limit.append offset)
  simpa [Select.windowFragment, limitFragment_eq, offsetFragment_eq, windowTokens] using whole

/-- The text after the projection, with the blank in front of `FROM`. -/
theorem follows_body {q : Select} (h : ∀ s ∈ q.names, Plain s) :
    Follows (q.coreFragment ++ q.windowFragment).sql.toList (bodyTokens q) := by
  obtain ⟨table, joins, filter, order⟩ := Select.forall_names_iff.1 h
  have rest := (follows_joins joins).append ((follows_filter filter).append (follows_window order))
  have source := (scans_word table).followed rest
  have whole := ((scans_word (w := "FROM") (by decide)).spaced source).after_blank
  simpa [Select.coreFragment, Select.sourceFragment, bodyTokens] using whole

end Sql

end QueryBuilder
