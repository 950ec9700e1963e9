import Mathlib.Data.List.Forall2
import QueryBuilder.Proofs.Builder.Rearrangement
import QueryBuilder.Proofs.Literal.Marked
import QueryBuilder.Proofs.Session.Effect
import QueryBuilder.Session.ModelSet

/-!
# Looking up a row

A lookup adds one equation for each filter to the query for all rows of a model, so its condition
grows to the left and each equation but the first two puts those before it in parentheses
(`Clause.literalText_conjunction`). A filter names a field, or a column if no field has the name. The
name of a field may be replaced by that of its column, unless both it and the field with that name
are foreign keys (`Model.column_column`, `Model.Shadows.column_eq`). Main statement:
`ModelSet.get_laws`.
-/

namespace QueryBuilder
set_option autoImplicit false

/-! ## Conditions joined by `AND` -/

/-- The text of conditions joined by `AND`, nested to the left: each of them but the first two closes
a parenthesis around those before it. -/
def conjunctionText : List String → String
  | [] => ""
  | [s] => s
  | s :: t :: ts => String.join (List.replicate ts.length "(") ++ s ++ " AND " ++ t ++
      String.join (ts.map (") AND " ++ ·))

/-- The number of characters between so many conditions. -/
def jointLength : Nat → Nat
  | 0 | 1 => 0
  | n + 2 => 7 * n + 5

theorem length_conjunctionText (ss : List String) :
    (conjunctionText ss).length = (String.join ss).length + jointLength ss.length := by
  match ss with
  | [] => rfl
  | [s] => simp [conjunctionText, jointLength]
  | s :: t :: ts =>
    have joined : (String.join (ts.map (") AND " ++ ·))).length =
        (String.join ts).length + 6 * ts.length := by
      have six : ") AND ".length = 6 := by decide
      induction ts with
      | nil => rfl
      | cons u ts ih =>
        simp only [List.map_cons, String.join_cons, String.length_append, List.length_cons, ih, six]
        omega
    have opened : (String.join (List.replicate ts.length "(")).length = ts.length := by
      have one : "(".length = 1 := by decide
      rw [String.length_join, List.map_replicate, List.sum_replicate_nat, one, Nat.mul_one]
    have and : " AND ".length = 5 := by decide
    simp only [conjunctionText, jointLength, String.join_cons, String.length_append, List.length_cons,
      joined, opened, and]
    omega

/-- A longer condition makes a longer text. -/
theorem length_conjunctionText_lt {s t : String} (h : s.length < t.length)
    (before after : List String) : (conjunctionText (before ++ s :: after)).length <
      (conjunctionText (before ++ t :: after)).length := by
  simp only [length_conjunctionText, String.join_append, String.join_cons, String.length_append,
    List.length_append, List.length_cons]
  omega

namespace Clause

variable {lit : Value → String} {c d : Clause} {cs : List Clause}

theorem literalText_and (hd : d.isComposite = false) : (and c d).literalText lit =
    (if c.isComposite then "(" ++ c.literalText lit ++ ")" else c.literalText lit) ++ " AND " ++
      d.literalText lit := by
  rw [literalText, hd]
  rfl

/-- Each further condition puts the ones before it in parentheses. -/
theorem literalText_foldl_and (hc : c.isComposite = true) (h : ∀ d ∈ cs, d.isComposite = false) :
    (cs.foldl and c).literalText lit = String.join (List.replicate cs.length "(") ++
      c.literalText lit ++ String.join (cs.map fun d => ") AND " ++ d.literalText lit) := by
  induction cs generalizing c with
  | nil => simp
  | cons d cs ih =>
    obtain ⟨simple, others⟩ := List.forall_mem_cons.1 h
    have parentheses : String.join (List.replicate (cs.length + 1) "(") =
        String.join (List.replicate cs.length "(") ++ "(" := by
      rw [List.replicate_succ', String.join_append]
      simp
    rw [List.foldl_cons, ih rfl others, literalText_and simple, hc, List.length_cons, parentheses,
      List.map_cons, String.join_cons]
    simp only [if_true, String.append_assoc]
    rfl

theorem literalText_conjunction (h : ∀ d ∈ cs, d.isComposite = false)
    (hc : conjunction cs = some c) :
    c.literalText lit = conjunctionText (cs.map fun d => d.literalText lit) := by
  match cs, h, hc with
  | [d], _, rfl => rfl
  | d :: e :: cs, h, rfl =>
    obtain ⟨first, h⟩ := List.forall_mem_cons.1 h
    obtain ⟨second, others⟩ := List.forall_mem_cons.1 h
    rw [List.foldl_cons, literalText_foldl_and rfl others, literalText_and second, first]
    simp only [conjunctionText, List.map_cons, List.length_map, List.map_map, String.append_assoc]
    rfl

theorem params_foldl_and (c : Clause) (cs : List Clause) : (cs.foldl and c).fragment.params =
    c.fragment.params ++ cs.flatMap fun d => d.fragment.params := by
  induction cs generalizing c with
  | nil => exact (List.append_nil _).symm
  | cons d cs ih =>
    rw [List.foldl_cons, ih, fragment_and]
    simp [params_operandFragment]

theorem params_conjunction (cs : List Clause) :
    (conjunction cs).toList.flatMap (fun d => d.fragment.params) =
      cs.flatMap fun d => d.fragment.params := by
  cases cs with
  | nil => rfl
  | cons c cs => simp [conjunction, params_foldl_and]

end Clause

/-! ## Names and columns -/

namespace Model

/-- The column that a name stands for: that of the field with the name, or else one with the name. -/
def Names (m : Model) (name column : String) : Prop :=
  (∃ f ∈ m.fields.toList, f.name = name ∧ f.column = column) ∨
    ((∀ f ∈ m.fields.toList, f.name ≠ name) ∧ name = column)

/-- The field is a foreign key, and so is a field that has the name of its column. -/
def Shadows (m : Model) (f : Field) : Prop :=
  f.foreignKey.isSome ∧ ∃ g ∈ m.fields.toList, g.name = f.name ++ "_id" ∧ g.foreignKey.isSome

variable {m : Model}

theorem column_of_mem {f : Field} (hf : f ∈ m.fields.toList) :
    m.column f.name = .qualified m.table f.column := by
  rw [column, KeyedList.find?_of_mem hf]
  rfl

theorem column_of_unknown {name : String} (h : ∀ f ∈ m.fields.toList, f.name ≠ name) :
    m.column name = .qualified m.table name := by
  have none : m.fields.find? name = none := by
    rw [KeyedList.find?_eq_none_iff, KeyedList.keys, List.mem_map]
    rintro ⟨f, hf, same⟩
    exact h f hf same
  rw [column, none]
  rfl

theorem Names.column_eq {name column : String} (h : m.Names name column) :
    m.column name = .qualified m.table column := by
  rcases h with ⟨f, hf, rfl, rfl⟩ | ⟨unknown, rfl⟩
  · exact column_of_mem hf
  · exact column_of_unknown unknown

theorem exists_names (m : Model) (name : String) : ∃ column, m.Names name column := by
  by_cases known : ∃ f ∈ m.fields.toList, f.name = name
  · obtain ⟨f, hf, same⟩ := known
    exact ⟨f.column, .inl ⟨f, hf, same, rfl⟩⟩
  · exact ⟨name, .inr ⟨fun f hf same => known ⟨f, hf, same⟩, rfl⟩⟩

/-- Every name stands for one column. -/
theorem names_iff {name column : String} : m.Names name column ↔ (m.column name).name = column := by
  constructor
  · intro h
    rw [h.column_eq]
    rfl
  · rintro rfl
    obtain ⟨column, h⟩ := m.exists_names name
    rw [h.column_eq]
    exact h

theorem Shadows.column_eq {f : Field} (h : m.Shadows f) :
    m.column f.column = .qualified m.table (f.column ++ "_id") := by
  obtain ⟨key, g, hg, name, other⟩ := h
  have own : f.column = g.name := by rw [Field.column, if_pos key, name]
  have column : g.column = g.name ++ "_id" := if_pos other
  rw [own, column_of_mem hg, column]

/-- The column of a field stands for itself, unless a foreign key has its name. -/
theorem column_column {f : Field} (hf : f ∈ m.fields.toList) (h : ¬m.Shadows f) :
    m.column f.column = m.column f.name := by
  by_cases key : f.foreignKey.isSome
  · have own : f.column = f.name ++ "_id" := if_pos key
    rw [column_of_mem hf]
    by_cases known : ∃ g ∈ m.fields.toList, g.name = f.column
    · obtain ⟨g, hg, name⟩ := known
      have column : g.column = g.name :=
        if_neg fun other => h ⟨key, g, hg, name.trans own, other⟩
      rw [← name, column_of_mem hg, column]
    · exact column_of_unknown fun g hg same => known ⟨g, hg, same⟩
  · have own : f.column = f.name := if_neg key
    rw [own]

end Model

/-! ## Lookups -/

namespace ModelSet

variable {s : ModelSet} {filters : List (String × Value)}

/-- The equations that a lookup asks for. -/
def equations (s : ModelSet) (filters : List (String × Value)) : List Clause :=
  filters.map fun p => .eq (s.model.column p.1) p.2

theorem foldl_restrict {α : Type} (clause : α → Clause) (as : List α) (q : Select) :
    as.foldl (fun q a => q.restrict (clause a)) q =
      { q with filter := (as.map clause).foldl Select.conjoin q.filter } := by
  induction as generalizing q with
  | nil => rfl
  | cons a as ih =>
    rw [List.foldl_cons, ih]
    rfl

theorem matching_eq (s : ModelSet) (filters : List (String × Value)) : s.matching filters =
    { Select.all s.model with filter := Clause.conjunction (s.equations filters) } := by
  have start : (Select.all s.model).filter = none := rfl
  rw [matching, selectQuery, foldl_restrict, start, Select.foldl_conjoin_none]
  rfl

/-- The part of a lookup that has these conditions. -/
def whereText (conditions : List String) : String :=
  if conditions.isEmpty then "" else " WHERE " ++ conjunctionText conditions

theorem filterText_conjunction {q : Select} {cs : List Clause}
    (hq : q.filter = Clause.conjunction cs) (h : ∀ d ∈ cs, d.isComposite = false) :
    q.filterText mark = whereText (cs.map fun d => d.literalText mark) := by
  cases cs with
  | nil =>
    rw [Select.filterText, hq]
    rfl
  | cons c cs =>
    have text : (cs.foldl .and c).literalText mark = _ := Clause.literalText_conjunction h rfl
    rw [Select.filterText, hq]
    exact congrArg (" WHERE " ++ ·) text

theorem isComposite_of_mem_equations (s : ModelSet) (filters : List (String × Value)) :
    ∀ c ∈ s.equations filters, c.isComposite = false :=
  List.forall_mem_map.2 fun _ _ => rfl

/-- The text of the equation that a filter asks for. -/
def equationText (s : ModelSet) (p : String × Value) : String := (s.model.column p.1).text ++ " = ?"

theorem sql_matching (s : ModelSet) (filters : List (String × Value)) :
    (s.matching filters).fragment.sql = "SELECT * FROM " ++ s.model.table ++
      whereText (filters.map s.equationText) := by
  have filter := filterText_conjunction (congrArg Select.filter (s.matching_eq filters))
    (s.isComposite_of_mem_equations filters)
  have equation (p : String × Value) :
      (Clause.eq (s.model.column p.1) p.2).literalText mark = s.equationText p := by
    simp only [Clause.eq, Clause.literalText, Operand.literalText, mark, String.append_assoc]
    rfl
  have equations : (s.equations filters).map (fun d => d.literalText mark) =
      filters.map s.equationText := by
    rw [ModelSet.equations, List.map_map]
    exact List.map_congr_left fun p _ => equation p
  have projection : (s.matching filters).projectionText = "*" := by
    rw [matching_eq]
    rfl
  have source : (s.matching filters).sourceText = " FROM " ++ s.model.table := by
    rw [matching_eq]
    exact String.append_empty
  have window : (s.matching filters).windowText = "" := by
    rw [matching_eq]
    rfl
  rw [Select.sql_fragment, Select.coreText, projection, source, window, filter, equations,
    String.append_empty, ← String.append_assoc, ← String.append_assoc]
  rfl

theorem params_matching (s : ModelSet) (filters : List (String × Value)) :
    (s.matching filters).fragment.params = filters.map Prod.snd := by
  have own (c : Column) (v : Value) : (Clause.eq c v).fragment.params = [v] := by
    simp [Clause.eq, Clause.fragment, Operand.fragment, Column.params_fragment]
  rw [Select.params_fragment, matching_eq, Clause.params_conjunction, equations, List.flatMap_map,
    List.map_eq_flatMap]
  simp only [own]

/-- What a lookup asks of a connection and gives back. -/
structure LooksUp (s : ModelSet) (filters : List (String × Value)) (columns : List String)
    (query : Fragment) : Prop where
  /-- The filters name these columns. -/
  names : List.Forall₂ s.model.Names (filters.map Prod.fst) columns
  /-- The condition is one equation for each filter, joined by `AND` from the left, in order. -/
  compiled : s.context.compile (.select { Select.all s.model with
    filter := Clause.conjunction (List.zipWith
      (fun column v => .eq (.qualified s.model.table column) v) columns (filters.map Prod.snd)) }) =
        .ok query
  text : query = ⟨"SELECT * FROM " ++ s.model.table ++
    whereText (columns.map fun column => s.model.table ++ "." ++ column ++ " = ?"),
    filters.map Prod.snd⟩
  /-- On every connection it is the only call, and the first row of the answer is given back. -/
  asks : ∀ (σ : Type) [Connection σ], (s.get filters : Session σ (Option Row)) =
    Connection.cursor query >>= fun c => Context.ofExcept (c.content.map List.head?)

theorem looksUp (s : ModelSet) (filters : List (String × Value)) :
    s.LooksUp filters (filters.map fun p => (s.model.column p.1).name)
      (s.matching filters).fragment where
  names := by
    refine List.forall₂_map_left_iff.2 (List.forall₂_map_right_iff.2 (List.forall₂_same.2 ?_))
    exact fun p _ => Model.names_iff.2 rfl
  compiled := by
    have condition : List.zipWith (fun column v => Clause.eq (.qualified s.model.table column) v)
        (filters.map fun p => (s.model.column p.1).name) (filters.map Prod.snd) =
          s.equations filters := by
      rw [List.zipWith_map, List.zipWith_self]
      rfl
    rw [condition, ← matching_eq]
    exact s.context.compile_eq_ok rfl
  text := by
    have conditions : (filters.map fun p => (s.model.column p.1).name).map
        (fun column => s.model.table ++ "." ++ column ++ " = ?") = filters.map s.equationText := by
      rw [List.map_map]
      rfl
    rw [conditions, ← sql_matching, ← params_matching]
  asks := fun σ _ => s.context.fetchOne_eq (s.matching filters)

theorem LooksUp.columns_eq {columns : List String} {query : Fragment}
    (h : s.LooksUp filters columns query) :
    columns = filters.map fun p => (s.model.column p.1).name := by
  have named := h.names.imp fun name column => Model.names_iff.1
  rw [List.forall₂_map_left_iff] at named
  have same := List.forall₂_map_left_iff.2 named
  rw [List.forall₂_eq_eq_eq] at same
  exact same.symm

theorem LooksUp.query_eq {columns : List String} {query : Fragment}
    (h : s.LooksUp filters columns query) : query = (s.matching filters).fragment := by
  rw [h.text, h.columns_eq, ← (s.looksUp filters).text]

/-- Another column in a filter is another text of the call. -/
theorem sql_ne_of_shadows {f : Field} (hf : f ∈ s.model.fields.toList) (h : s.model.Shadows f)
    (before after : List (String × Value)) (v : Value) :
    (s.matching (before ++ (f.column, v) :: after)).fragment.sql ≠
      (s.matching (before ++ (f.name, v) :: after)).fragment.sql := by
  have longer : (s.equationText (f.name, v)).length < (s.equationText (f.column, v)).length := by
    have suffix : "_id".length = 3 := by decide
    rw [equationText, equationText, Model.column_of_mem hf, h.column_eq]
    simp only [Column.text, Column.qualified, String.length_append, suffix]
    omega
  have texts := length_conjunctionText_lt longer (before.map s.equationText)
    (after.map s.equationText)
  have condition (p : String × Value) : whereText ((before ++ p :: after).map s.equationText) =
      " WHERE " ++ conjunctionText
        (before.map s.equationText ++ s.equationText p :: after.map s.equationText) := by
    rw [List.map_append, List.map_cons, whereText, if_neg (by simp)]
  intro same
  have lengths := congrArg String.length same
  rw [sql_matching, sql_matching, condition, condition] at lengths
  simp only [String.length_append] at lengths
  omega

/-- **A lookup asks for exactly the conjunction of its filters.** Its one call selects the rows of
the table in which every named column has the given value, in the order of the filters, and its result
is the first of them. A field may be named by its column, and the call stays the same unless both it
and a field with that name are foreign keys. -/
theorem get_laws (s : ModelSet) :
    (∀ filters, ∃ columns query, s.LooksUp filters columns query) ∧
    ∀ f ∈ s.model.fields.toList, ∀ before after v,
      (¬s.model.Shadows f → ∀ (σ : Type) [Connection σ],
        (s.get (before ++ (f.column, v) :: after) : Session σ (Option Row)) =
          s.get (before ++ (f.name, v) :: after)) ∧
      (s.model.Shadows f → s.model.column f.column ≠ s.model.column f.name ∧
        ∀ columns columns' query query',
          s.LooksUp (before ++ (f.name, v) :: after) columns query →
          s.LooksUp (before ++ (f.column, v) :: after) columns' query' →
          query'.sql ≠ query.sql) := by
  refine ⟨fun filters => ⟨_, _, s.looksUp filters⟩, fun f hf before after v => ⟨?_, ?_⟩⟩
  · intro h σ _
    have equations : s.equations (before ++ (f.column, v) :: after) =
        s.equations (before ++ (f.name, v) :: after) := by
      simp [ModelSet.equations, Model.column_column hf h]
    rw [get, get, matching_eq, matching_eq, equations]
  · intro h
    have differ := s.sql_ne_of_shadows hf h
    refine ⟨fun same => ?_, fun columns columns' query query' named replaced => ?_⟩
    · refine differ [] [] v ?_
      rw [sql_matching, sql_matching, List.nil_append, List.nil_append, List.map_singleton,
        List.map_singleton, equationText, equationText, same]
    · rw [named.query_eq, replaced.query_eq]
      exact differ before after v

/-- The parent of a comment, which is a foreign key. -/
def parentField : Field := (Field.plain "parent" .bigInt).set (.references "comment" "id")

/-- Comments with a text, the comment that they answer and another one, in a field with the name of
the column of the first. -/
def comments : ModelSet where
  context := .plain .mysql
  model := (((Model.named "comment").add (.plain "text" .text)).add parentField).add
    ((Field.plain "parent_id" .bigInt).set (.references "comment" "id"))

/-- Filters with a name that is repeated and one that is no field. -/
def commentFilters : List (String × Value) :=
  [("text", .string "a"), ("parent", .int64 3), ("kind", .null), ("text", .string "b")]

/-- Names may be repeated or unknown, and the name of a column is no substitute for the name of a
field where another foreign key has it. -/
theorem comments_looked_up :
    Acts (comments.get commentFilters)
      [.rows [.ofCells [("id", .int64 5)], .ofCells [("id", .int64 8)]]]
      (.ok (some (.ofCells [("id", .int64 5)])))
      [.cursor ⟨"SELECT * FROM comment WHERE ((comment.text = ? AND comment.parent_id = ?) " ++
        "AND comment.kind = ?) AND comment.text = ?",
        [.string "a", .int64 3, .null, .string "b"]⟩] [] ∧
    comments.model.Shadows parentField ∧
    comments.model.column "parent_id" ≠ comments.model.column "parent" ∧
    ∃ sender ∈ messageModel.fields.toList, sender.column = "sender_id" ∧
      ¬messageModel.Shadows sender ∧ ∀ (σ : Type) [Connection σ],
        (get ⟨.plain .mysql, messageModel⟩ [("sender_id", .int64 1)] : Session σ (Option Row)) =
          get ⟨.plain .mysql, messageModel⟩ [("sender", .int64 1)] := by
  obtain ⟨columns, query, lookup⟩ := (get_laws comments).1 commentFilters
  have named : columns = ["text", "parent_id", "kind", "text"] := lookup.columns_eq
  have call : query =
      ⟨"SELECT * FROM comment WHERE ((comment.text = ? AND comment.parent_id = ?) " ++
        "AND comment.kind = ?) AND comment.text = ?",
        [.string "a", .int64 3, .null, .string "b"]⟩ := by
    rw [lookup.text, named]
    rfl
  have asked : Acts (comments.get commentFilters)
      [.rows [.ofCells [("id", .int64 5)], .ofCells [("id", .int64 8)]]]
      (.ok (some (.ofCells [("id", .int64 5)]))) [.cursor query] [] := by
    rw [lookup.asks Recorder]
    exact (acts_cursor_call query).bind (acts_ofExcept _)
  have parent : parentField ∈ comments.model.fields.toList := by decide
  have shadows : comments.model.Shadows parentField := ⟨rfl, by decide⟩
  have differ := ((get_laws comments).2 parentField parent [] [] .null).2 shadows
  have sender :
      (Field.foreign "sender" accountModel).set .nullable ∈ messageModel.fields.toList := by decide
  have plain : ¬messageModel.Shadows ((Field.foreign "sender" accountModel).set .nullable) := by
    rintro ⟨_, other⟩
    revert other
    decide
  have same := ((get_laws (.mk (.plain .mysql) messageModel)).2 _ sender [] [] (.int64 1)).1 plain
  exact ⟨call ▸ asked, shadows, differ.1, _, sender, rfl, plain, fun σ _ => same σ⟩

end ModelSet

end QueryBuilder
