import QueryBuilder.Proofs.Join.ForeignKey
import QueryBuilder.Proofs.Literal.Marked
import QueryBuilder.Proofs.Session.Effect

/-!
# Counting rows

The count query of a query keeps its model, its joins and its condition, and replaces everything that
only says how rows are shown. So steps of presentation do not change it (`Select.count_foldl`), its
statement has the core of the statement of the query, and the number that a context returns is read off
the first value of the first row (`Context.counted_eq_ok_iff`). Main statement: `Context.count_laws`.
-/

namespace QueryBuilder
set_option autoImplicit false

/-! ## Steps of presentation -/

namespace Select

/-- The step says how rows are shown, not which rows there are. -/
def Step.isPresentation : Step → Bool
  | .restrict _ | .join _ _ => false
  | .project _ | .orderBy _ | .limit _ | .offset _ | .paginate _ _ | .count => true

/-- The queries have the same rows before any of them is left out. -/
structure SameRows (q q' : Select) : Prop where
  model : q.model = q'.model
  joins : q.joins = q'.joins
  filter : q.filter = q'.filter

theorem count_eq_count_iff {q q' : Select} : q.count = q'.count ↔ q.SameRows q' := by
  constructor
  · intro same
    have parts := Select.mk.inj same
    exact ⟨parts.1, parts.2.2.2.2.1, parts.2.2.1⟩
  · rintro ⟨model, joins, filter⟩
    unfold count
    rw [model, joins, filter]

theorem sameRows_after (q : Select) {s : Step} (h : s.isPresentation = true) :
    (q.after s).SameRows q := by
  cases s with
  | restrict c => cases h
  | join m kind => cases h
  | project fields => exact ⟨rfl, rfl, rfl⟩
  | orderBy k => exact ⟨rfl, rfl, rfl⟩
  | limit n => exact ⟨rfl, rfl, rfl⟩
  | offset n => exact ⟨rfl, rfl, rfl⟩
  | paginate page size => exact ⟨rfl, rfl, rfl⟩
  | count => exact ⟨rfl, rfl, rfl⟩

theorem count_foldl (q : Select) {steps : List Step} (h : ∀ s ∈ steps, s.isPresentation = true) :
    (steps.foldl after q).count = q.count := by
  induction steps generalizing q with
  | nil => rfl
  | cons s steps ih =>
    have first : (q.after s).count = q.count :=
      count_eq_count_iff.2 (sameRows_after q (h s List.mem_cons_self))
    exact (ih (q.after s) fun t ht => h t (List.mem_cons_of_mem s ht)).trans first

theorem sql_count (q : Select) : q.count.fragment.sql = "SELECT COUNT(1)" ++ q.coreText := by
  have window : q.count.windowText = "" := rfl
  have core : q.count.coreText = q.coreText := rfl
  have projection : "SELECT " ++ q.count.projectionText = "SELECT COUNT(1)" := rfl
  rw [sql_fragment, window, core, projection, String.append_empty]

theorem params_count (q : Select) : q.count.fragment.params = q.fragment.params := by
  rw [params_fragment, params_fragment]
  rfl

end Select

/-! ## The number in an answer -/

/-- An integer value, of whatever width, that is this number. -/
inductive Value.IsNumber (n : Nat) : Value → Prop where
  | int16 {k : Int16} (h : k.toInt = n) : IsNumber n (.int16 k)
  | int32 {k : Int32} (h : k.toInt = n) : IsNumber n (.int32 k)
  | int64 {k : Int64} (h : k.toInt = n) : IsNumber n (.int64 k)

theorem Value.isNumber_iff {v : Value} {n : Nat} : v.IsNumber n ↔ v.integer? = some (n : Int) := by
  constructor
  · rintro (h | h | h) <;> exact congrArg some h
  · intro h
    cases v with
    | int16 k => exact .int16 (Option.some.inj h)
    | int32 k => exact .int32 (Option.some.inj h)
    | int64 k => exact .int64 (Option.some.inj h)
    | _ => cases h

/-- The first value of the first row of the answer is this number. -/
def Cursor.StartsWith (c : Cursor) (n : Nat) : Prop :=
  ∃ row rows column v cells, c = .rows (row :: rows) ∧ row.toList = (column, v) :: cells ∧ v.IsNumber n

namespace Context

theorem countOf?_eq_some_iff {row : Option Row} {n : Nat} : countOf? row = some n ↔
    ∃ r v, row = some r ∧ r.first? = some v ∧ v.IsNumber n := by
  have number {k : Int} : (if 0 ≤ k then some k.toNat else none) = some n ↔ k = n := by
    constructor
    · intro h
      split at h
      · next nonneg => rw [← Option.some.inj h, Int.toNat_of_nonneg nonneg]
      · cases h
    · rintro rfl
      simp
  simp only [countOf?, Option.bind_eq_bind, Option.bind_eq_some_iff, number, Value.isNumber_iff]
  constructor
  · rintro ⟨r, rfl, v, first, k, integer, rfl⟩
    exact ⟨r, v, rfl, first, integer⟩
  · rintro ⟨r, v, rfl, first, integer⟩
    exact ⟨r, rfl, v, first, n, integer, rfl⟩

theorem counted_eq_ok_iff {q : Select} {row : Option Row} {n : Nat} :
    counted q row = .ok n ↔ countOf? row = some n := by
  unfold counted
  cases countOf? row with
  | none => simp
  | some k => simp

theorem countIn_eq_ok_iff {q : Select} {c : Cursor} {n : Nat} :
    countIn q c = .ok n ↔ c.StartsWith n := by
  cases c with
  | failing message =>
    constructor
    · rintro ⟨⟩
    · rintro ⟨_, _, _, _, _, ⟨⟩, _⟩
  | rows rows =>
    have read : countIn q (.rows rows) = counted q rows.head? := rfl
    rw [read, counted_eq_ok_iff, countOf?_eq_some_iff]
    constructor
    · rintro ⟨row, v, first, value, number⟩
      obtain ⟨others, rfl⟩ := List.head?_eq_some_iff.1 first
      obtain ⟨column, cells, hcells⟩ := Row.first?_eq_some_iff.1 value
      exact ⟨row, others, column, v, cells, rfl, hcells, number⟩
    · rintro ⟨row, others, column, v, cells, same, hcells, number⟩
      cases same
      exact ⟨row, v, rfl, Row.first?_eq_some_iff.2 ⟨column, cells, hcells⟩, number⟩

/-- An answer that is not counted is a failure of the database. -/
theorem countIn_cases (q : Select) (c : Cursor) :
    (∃ n, countIn q c = .ok n) ∨ ∃ cause, countIn q c = .error (.driver cause) := by
  cases c with
  | failing message => exact .inr ⟨_, rfl⟩
  | rows rows =>
    have read : countIn q (.rows rows) = counted q rows.head? := rfl
    rw [read, counted]
    cases countOf? rows.head? with
    | none => exact .inr ⟨_, rfl⟩
    | some n => exact .inl ⟨n, rfl⟩

/-! ## Counting and presentation -/

/-- What counting the rows of a query asks of a connection and gives back. -/
structure CountsBy (ctx : Context) (q : Select) (statement query : Fragment) : Prop where
  compiled : ctx.compile (.select q) = .ok statement
  text : statement.sql = "SELECT " ++ q.projectionText ++ q.coreText ++ q.windowText
  countCompiled : ctx.compile (.select q.count) = .ok query
  /-- The count query has the core of the statement and all its parameters. -/
  countText : query = ⟨"SELECT COUNT(1)" ++ q.coreText, statement.params⟩
  /-- On every connection it is the only call. The number is the first value of the first row; an
  answer without one is a failure of the database. -/
  asks : ∃ read : Cursor → Except Error Nat,
    (∀ (σ : Type) [Connection σ], (ctx.count q : Session σ Nat) =
      Connection.cursor query >>= fun c => ofExcept (read c)) ∧
    (∀ c n, read c = .ok n ↔ c.StartsWith n) ∧
    ∀ c, (∀ n, ¬c.StartsWith n) → ∃ cause, read c = .error (.driver cause)

theorem countsBy (ctx : Context) (q : Select) : ctx.CountsBy q q.fragment q.count.fragment where
  compiled := ctx.compile_eq_ok rfl
  text := q.sql_fragment
  countCompiled := ctx.compile_eq_ok rfl
  countText := by rw [← q.sql_count, ← q.params_count]
  asks := by
    refine ⟨countIn q, fun σ _ => ctx.count_eq q, fun c n => countIn_eq_ok_iff, fun c none => ?_⟩
    rcases countIn_cases q c with ⟨n, number⟩ | failed
    · exact absurd (countIn_eq_ok_iff.1 number) (none n)
    · exact failed

/-- **Counting ignores presentation and nothing else.** The count query of every query has the core of
its statement and its parameters, and a context asks for nothing else and returns the number that the
answer starts with. Steps of presentation leave the count query and the whole computation as they are,
and two queries with the same count query have the same model, joins and condition. -/
theorem count_laws (ctx : Context) (q : Select) :
    (∃ statement query, ctx.CountsBy q statement query) ∧
    (∀ steps : List Select.Step, (∀ s ∈ steps, s.isPresentation = true) →
      (steps.foldl Select.after q).count = q.count ∧
      ∀ (σ : Type) [Connection σ],
        (ctx.count (steps.foldl Select.after q) : Session σ Nat) = ctx.count q) ∧
    ∀ q' : Select, q'.count = q.count ↔ q'.SameRows q := by
  refine ⟨⟨_, _, ctx.countsBy q⟩, fun steps presentation => ?_, fun q' => Select.count_eq_count_iff⟩
  have same : (steps.foldl Select.after q).count = q.count := q.count_foldl presentation
  refine ⟨same, fun σ _ => ?_⟩
  have model : (steps.foldl Select.after q).model = q.model := Select.model_foldl q steps
  have failure : counted (steps.foldl Select.after q) = counted q := by
    funext row
    unfold counted
    rw [model]
  rw [count_eq, count_eq, same]
  unfold countIn
  rw [failure]

/-- Messages of an account, in no order. -/
def accountMessages : Select :=
  Select.build messageModel
    [.join accountModel .left, .restrict (.eq (.qualified "account" "email") (.string "a"))]

/-- A page of them, shown as a list of keys. -/
def presentation : List Select.Step :=
  [.project ["message.id"], .orderBy ⟨.unqualified "id", .descending⟩, .count, .paginate 3 20]

/-- The page is counted like all messages of the account, by one call. -/
theorem accountMessages_counted :
    (∀ s ∈ presentation, s.isPresentation = true) ∧
    (presentation.foldl Select.after accountMessages).windowText = " LIMIT 20 OFFSET 40" ∧
    Acts ((plain .mysql).count (presentation.foldl Select.after accountMessages))
      [.rows [.ofCells [("COUNT(1)", .int32 7)]]] (.ok 7)
      [.cursor ⟨"SELECT COUNT(1) FROM message LEFT JOIN account ON message.sender_id = account.id " ++
        "WHERE account.email = ?", [.string "a"]⟩] [] := by
  have steps : ∀ s ∈ presentation, s.isPresentation = true := by decide
  obtain ⟨⟨_, query, counts⟩, ignored, _⟩ := count_laws (plain .mysql) accountMessages
  obtain ⟨read, asks, number, _⟩ := counts.asks
  have seven : read (.rows [.ofCells [("COUNT(1)", .int32 7)]]) = .ok 7 :=
    (number _ 7).2 ⟨_, [], "COUNT(1)", _, [], rfl, rfl, .int32 rfl⟩
  have text : query = ⟨"SELECT COUNT(1) FROM message LEFT JOIN account ON " ++
      "message.sender_id = account.id WHERE account.email = ?", [.string "a"]⟩ :=
    (Except.ok.inj counts.countCompiled).symm
  refine ⟨steps, by decide, ?_⟩
  rw [(ignored _ steps).2 Recorder, asks Recorder, ← seven]
  have answered : Acts (ofExcept (read (.rows [.ofCells [("COUNT(1)", .int32 7)]]))) [] _ [] [] :=
    acts_ofExcept _
  exact text ▸ (acts_cursor_call query).bind answered

end Context

end QueryBuilder
