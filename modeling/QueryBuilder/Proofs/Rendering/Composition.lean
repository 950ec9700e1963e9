import QueryBuilder.Compile
import QueryBuilder.Rendering

/-!
# Renderings one after another

What is written behind other things is what would be written on its own: a rendering `Adds` a fragment
if that is what it puts behind whatever is there. Renderings one after another add their fragments one
after another (`Adds.append`), and every part of a query adds the fragment of that part, by induction
on clauses (`Clause.adds`). Main statement: steps, clauses in clauses and clauses in select queries
contribute their own result and nothing else (`Rendering.compositional`).
-/

namespace QueryBuilder
set_option autoImplicit false

namespace Fragment

@[simp] theorem empty_append (a : Fragment) : empty ++ a = a := by
  show Fragment.mk _ _ = a
  simp [empty]

@[simp] theorem append_empty (a : Fragment) : a ++ empty = a := by
  show Fragment.mk _ _ = a
  simp [empty]

theorem append_text (a : Fragment) (s : String) : a ++ text s = ⟨a.sql ++ s, a.params⟩ := by
  show Fragment.mk _ _ = Fragment.mk _ _
  rw [params_text, List.append_nil, sql_text]

/-- Every item but the first one comes with a separator in front of it. -/
theorem commaSeparated_cons (a : Fragment) (as : List Fragment) :
    commaSeparated (a :: as) = a ++ concat (as.map (text ", " ++ ·)) := by
  induction as generalizing a with
  | nil => simp [commaSeparated, concat]
  | cons b as ih => rw [commaSeparated, ih, List.map_cons, concat, append_assoc, append_assoc]

end Fragment

namespace Rendering

/-- What is written is this fragment, whatever has been written before. -/
def Adds (r : Rendering) (f : Fragment) : Prop := ∀ before, after before r = before ++ f

section Adds

variable {r r' : Rendering} {f f' : Fragment}

theorem Adds.result_eq (h : r.Adds f) : r.result = f := by
  rw [result, h, Fragment.empty_append]

theorem adds_pure : Adds (pure ()) .empty := fun before => (Fragment.append_empty before).symm

theorem Adds.append (h : r.Adds f) (h' : r'.Adds f') :
    Adds (do r; r') (f ++ f') := by
  intro before
  have second : after before (do r; r') = after (after before r) r' := rfl
  rw [second, h, h', Fragment.append_assoc]

theorem adds_write (s : String) : (write s).Adds (.text s) :=
  fun before => (Fragment.append_text before s).symm

theorem adds_writeName (name : String) : (writeName name).Adds (.text name) := adds_write name

theorem adds_writeParam (v : Value) : (writeParam v).Adds (.param v) := by
  intro before
  show Fragment.mk _ _ = Fragment.mk _ _
  rw [Fragment.sql_param, Fragment.params_param, String.push_eq_append]
  rfl

theorem adds_forM {α : Type} {each : α → Rendering} {g : α → Fragment}
    (h : ∀ a, (each a).Adds (g a)) (as : List α) :
    Adds (as.forM each) (.concat (as.map g)) := by
  induction as with
  | nil => exact adds_pure
  | cons a as ih => exact (h a).append ih

theorem adds_writeList {α : Type} {each : α → Rendering} {g : α → Fragment}
    (h : ∀ a, (each a).Adds (g a)) (as : List α) :
    (writeList each as).Adds (.commaSeparated (as.map g)) := by
  cases as with
  | nil => exact adds_pure
  | cons a as =>
    have rest := adds_forM (fun b => (adds_write ", ").append (h b)) as
    rw [List.map_cons, Fragment.commaSeparated_cons, List.map_map]
    exact (h a).append rest

end Adds

end Rendering

/-! ## Clauses, sort keys and joins -/

open Rendering

theorem Column.adds (c : Column) : c.render.Adds c.fragment := by
  obtain ⟨table, name⟩ := c
  cases table with
  | none => exact adds_writeName name
  | some table =>
    have parts := (adds_writeName table).append ((adds_write ".").append (adds_writeName name))
    rw [← Fragment.append_assoc] at parts
    exact parts

theorem Operand.adds (o : Operand) : o.render.Adds o.fragment := by
  cases o with
  | value v => exact adds_writeParam v
  | column c => exact c.adds

theorem Clause.adds_operand {c : Clause} (h : c.render.Adds c.fragment) :
    (operand c.isComposite c.render).Adds c.operandFragment := by
  unfold operand operandFragment
  split
  · rw [Fragment.enclosed, Fragment.append_assoc]
    exact (adds_write _).append (h.append (adds_write _))
  · exact h

/-- The keyword and the blanks around it make one text. -/
theorem Clause.adds_connective {left right : Rendering} {a b : Fragment} (h : left.Adds a)
    (h' : right.Adds b) (keyword : String) :
    (connective left keyword right).Adds (a ++ .text (" " ++ keyword ++ " ") ++ b) := by
  have parts := h.append ((adds_write " ").append ((adds_write keyword).append
    ((adds_write " ").append h')))
  have words : Fragment.text (" " ++ keyword ++ " ") = .text " " ++ .text keyword ++ .text " " := rfl
  rw [words, connective]
  simpa only [Fragment.append_assoc] using parts

/-- By induction on the clause: a composite one writes its operands one after another. -/
theorem Clause.adds (c : Clause) : c.render.Adds c.fragment := by
  induction c with
  | compare left op right =>
    have parts := left.adds.append ((adds_write " ").append ((adds_write op.symbol).append
      ((adds_write " ").append right.adds)))
    rw [render, fragment]
    simpa only [Fragment.append_assoc] using parts
  | and left right ihl ihr =>
    rw [render, fragment_and]
    exact adds_connective (adds_operand ihl) (adds_operand ihr) "AND"
  | or left right ihl ihr =>
    rw [render, fragment_or]
    exact adds_connective (adds_operand ihl) (adds_operand ihr) "OR"

theorem Clause.build_eq (c : Clause) : c.build = c.fragment := c.adds.result_eq

theorem SortKey.adds (k : SortKey) : k.render.Adds k.fragment := by
  rw [fragment, Fragment.append_assoc]
  exact k.column.adds.append ((adds_write _).append (adds_write _))

theorem Join.adds (j : Join) : j.render.Adds j.fragment := by
  have parts := (adds_write j.kind.keyword).append ((adds_write " ").append
    ((adds_writeName j.right.table).append ((adds_write " ON ").append
      (j.on.foreignKey.adds.append ((adds_write " = ").append j.on.primaryKey.adds)))))
  rw [render, fragment]
  simpa only [Fragment.append_assoc] using parts

/-! ## Steps -/

namespace Rendering

/-- What a step adds. -/
def Step.fragment : Step → Fragment
  | text s => .text s
  | name s => .text s
  | param v => .param v
  | column c => c.fragment
  | clause c => c.fragment
  | sortKey k => k.fragment
  | join j => j.fragment

theorem Step.adds (s : Step) : s.render.Adds s.fragment := by
  cases s with
  | text s => exact adds_write s
  | name s => exact adds_writeName s
  | param v => exact adds_writeParam v
  | column c => exact c.adds
  | clause c => exact c.adds
  | sortKey k => exact k.adds
  | join j => exact j.adds

theorem adds_ofSteps (steps : List Step) :
    (ofSteps steps).Adds (.concat (steps.map fun s => s.render.result)) := by
  have results : (fun s : Step => s.render.result) = Step.fragment :=
    funext fun s => s.adds.result_eq
  rw [results]
  exact adds_forM Step.adds steps

end Rendering

/-! ## Select queries -/

namespace Select

theorem adds_projection (q : Select) : q.renderProjection.Adds q.projectionFragment := by
  unfold renderProjection projectionFragment
  split
  · exact adds_write _
  · exact adds_writeList adds_writeName q.fields

theorem adds_source (q : Select) : q.renderSource.Adds q.sourceFragment := by
  have joins := adds_forM (fun j : Join => (adds_write " ").append j.adds) q.joins
  rw [sourceFragment, Fragment.append_assoc]
  exact (adds_write _).append ((adds_writeName _).append joins)

theorem adds_filter (q : Select) : q.renderFilter.Adds q.filterFragment := by
  unfold renderFilter filterFragment
  cases q.filter with
  | none => exact adds_pure
  | some c => exact (adds_write _).append c.adds

theorem adds_order (q : Select) : q.renderOrder.Adds q.orderFragment := by
  unfold renderOrder orderFragment
  split
  · exact adds_pure
  · exact (adds_write _).append (adds_writeList SortKey.adds q.order)

theorem adds_count (keyword : String) (n : UInt64) :
    (renderCount keyword n).Adds (.text keyword ++ rowCount n) :=
  (adds_write keyword).append (adds_write _)

theorem adds_limit (q : Select) : q.renderLimit.Adds q.limitFragment := by
  unfold renderLimit limitFragment
  split
  · exact adds_count _ _
  · split
    · exact adds_count _ _
    · exact adds_pure

theorem adds_offset (q : Select) : q.renderOffset.Adds q.offsetFragment := by
  unfold renderOffset offsetFragment
  split
  · exact adds_count _ _
  · exact adds_pure

theorem adds (q : Select) : q.render.Adds q.fragment := by
  have parts := (adds_write "SELECT ").append (q.adds_projection.append (q.adds_source.append
    (q.adds_filter.append (q.adds_order.append (q.adds_limit.append q.adds_offset)))))
  rw [render, fragment, coreFragment, windowFragment]
  simpa only [Fragment.append_assoc] using parts

theorem result_render (q : Select) : q.render.result = q.fragment := q.adds.result_eq

/-- What stands in front of the condition of a query. -/
def beforeFilter (q : Select) : Fragment :=
  .text "SELECT " ++ q.projectionFragment ++ q.sourceFragment

theorem result_render_eq (q : Select) :
    q.render.result = q.beforeFilter ++ q.filterFragment ++ q.windowFragment := by
  rw [result_render, fragment, coreFragment, beforeFilter]
  simp only [Fragment.append_assoc]

end Select

/-! ## Composition -/

/-- The SQL of a clause as an operand: what it is on its own, in parentheses if it is composite. -/
def Clause.nested (c : Clause) : Fragment := if c.isComposite then c.build.enclosed else c.build

theorem Clause.nested_eq (c : Clause) : c.nested = c.operandFragment := by
  rw [nested, build_eq, operandFragment]

theorem Clause.build_and (left right : Clause) :
    (left.and right).build = left.nested ++ .text " AND " ++ right.nested := by
  rw [build_eq, fragment_and, nested_eq, nested_eq]

theorem Clause.build_or (left right : Clause) :
    (left.or right).build = left.nested ++ .text " OR " ++ right.nested := by
  rw [build_eq, fragment_or, nested_eq, nested_eq]

/-- **What is written does not depend on what has been written.** Steps give the texts and the values
of each step on its own, one after another, behind whatever is there. So a clause contributes its own
SQL to a composite clause, in parentheses if it is composite itself, and to a select query, which is
otherwise the same whatever the clause is. -/
theorem Rendering.compositional (steps : List Step) :
    (ofSteps steps).result.sql = String.join (steps.map fun s => s.render.result.sql) ∧
    (ofSteps steps).result.params = steps.flatMap (fun s => s.render.result.params) ∧
    (∀ before, after before (ofSteps steps) = before ++ (ofSteps steps).result) ∧
    (∀ left right : Clause,
      (left.and right).build = left.nested ++ .text " AND " ++ right.nested ∧
      (left.or right).build = left.nested ++ .text " OR " ++ right.nested) ∧
    ∀ q : Select, Dialect.mysql.compile (.select q) = .ok q.render.result ∧
      ∃ head tail : Fragment,
        (Select.render { q with filter := none }).result = head ++ tail ∧
        ∀ c : Clause, (Select.render { q with filter := some c }).result =
          head ++ (.text " WHERE " ++ c.build) ++ tail := by
  have written := (adds_ofSteps steps).result_eq
  refine ⟨?_, ?_, ?_, fun left right => ⟨left.build_and right, left.build_or right⟩,
    fun q => ⟨?_, q.beforeFilter, q.windowFragment, ?_, fun c => ?_⟩⟩
  · rw [written, Fragment.sql_concat_eq_join, List.map_map]
    rfl
  · rw [written, Fragment.params_concat, List.flatMap_map]
  · intro before
    rw [adds_ofSteps steps before, written]
  · rw [q.result_render]
    rfl
  · rw [Select.result_render_eq]
    exact congrArg (· ++ q.windowFragment) (Fragment.append_empty q.beforeFilter)
  · rw [Select.result_render_eq, c.build_eq]
    rfl

end QueryBuilder
