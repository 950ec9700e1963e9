import Mathlib.Data.List.Basic
import QueryBuilder.Compile
import QueryBuilder.Proofs.Sql.Select

/-!
# Limits and offsets as SQL reads them

`LIMIT` and `OFFSET` ask for a slice of the rows of a query: an offset passes over rows, a limit keeps
the first ones of what is left, and where one of them is not stated it does nothing. `Select.sliced?`
reads them off the statement of a query and gives the slice of a list of rows. An offset without a
limit is stated with a limit that no list reaches, and an offset of a page that does not fit is past
the end of every list. So a query gives the rows that its limit and its offset ask for, and a page the
rows of that page, all pages together each row once (`Select.sliced?_eq`).
-/

namespace QueryBuilder
set_option autoImplicit false

namespace Sql

/-- What a statement asks for: the rows after the offset, up to the limit if there is one. -/
structure Slice where
  limit : Option Nat
  offset : Nat

/-- The rows that are asked for. -/
def Slice.of {α : Type} (s : Slice) (rows : List α) : List α :=
  match s.limit with
  | some n => (rows.drop s.offset).take n
  | none => rows.drop s.offset

/-! ## The reader -/

/-- The number that a numeral stands for. -/
def number? : Token → Option Nat
  | .name ⟨none, w⟩ =>
    if w.toList.all Char.isDigit then some (Nat.ofDigitChars 10 w.toList 0) else none
  | _ => none

/-- Reads a number with its keyword, if the text goes on with them. -/
def readCount (keyword : String) : List Token → Option (Option Nat × List Token)
  | t :: u :: ts =>
    if t = .word keyword then (number? u).map fun n => (some n, ts) else some (none, t :: u :: ts)
  | ts => some (none, ts)

/-- Reads a limit and an offset, each if there is one, and nothing else. -/
def readSlice (ts : List Token) : Option Slice := do
  let (limit, ts) ← readCount "LIMIT" ts
  let (offset, ts) ← readCount "OFFSET" ts
  if ts = [] then some ⟨limit, offset.getD 0⟩ else none

theorem number?_digits (n : Nat) : number? (.word (.ofList (Number.digits n))) = some n := by
  have digits : (Number.digits n).all Char.isDigit = true :=
    List.all_eq_true.2 fun _ hc => Nat.isDigit_of_mem_toDigits (by decide) (by decide) hc
  simp only [Token.word, Column.unqualified, number?, String.toList_ofList, digits, if_true]
  rw [Number.digits, Nat.ofDigitChars_ten_toDigits]

theorem number?_numeral (n : UInt64) : number? (numeral n) = some n.toNat := number?_digits n.toNat

/-- A count of 0 is not stated. -/
def stated (n : UInt64) : Option Nat := if 0 < n then some n.toNat else none

theorem readCount_countTokens {keyword : String} (n : UInt64) {rest : List Token}
    (other : ∀ t ∈ rest.head?, t ≠ .word keyword) :
    readCount keyword (countTokens keyword n ++ rest) = some (stated n, rest) := by
  unfold countTokens stated
  by_cases positive : 0 < n
  · rw [if_pos positive, if_pos positive, List.cons_append, List.singleton_append, readCount,
      if_pos rfl, number?_numeral]
    rfl
  · rw [if_neg positive, if_neg positive, List.nil_append]
    match rest, other with
    | [], _ => rfl
    | [t], _ => rfl
    | t :: u :: ts, other => rw [readCount, if_neg (other t rfl)]

theorem readSlice_countTokens (limit offset : UInt64) :
    readSlice (countTokens "LIMIT" limit ++ countTokens "OFFSET" offset) =
      some ⟨stated limit, (stated offset).getD 0⟩ := by
  have other : ∀ t ∈ (countTokens "OFFSET" offset).head?, t ≠ .word "LIMIT" := by
    unfold countTokens
    split
    · intro t ht
      cases ht
      decide
    · intro t ht
      cases ht
  have second : readCount "OFFSET" (countTokens "OFFSET" offset ++ []) = some (stated offset, []) :=
    readCount_countTokens offset (by simp)
  rw [List.append_nil] at second
  simp [readSlice, readCount_countTokens limit other, second]

end Sql

/-! ## Statements -/

namespace Select

/-- The query without limit and offset. -/
def unsliced (q : Select) : Select := { q with limit := 0, offset := 0 }

/-- What limit and offset add to the statement of a query. -/
def sliceText? (q : Select) : Option (List Char) :=
  match Dialect.mysql.compile (.select q), Dialect.mysql.compile (.select q.unsliced) with
  | .ok f, .ok bare => bare.sql.toList.isPrefixOf? f.sql.toList
  | _, _ => none

/-- The rows that the statement of a query asks for, of all rows that there are without its limit and
its offset. -/
def sliced? {α : Type} (q : Select) (rows : List α) : Option (List α) := do
  let ts ← Sql.tokens? (← q.sliceText?)
  return (← Sql.readSlice ts).of rows

theorem sliceText?_eq (q : Select) :
    q.sliceText? = some (q.limitFragment ++ q.offsetFragment).sql.toList := by
  have bare : q.fragment.sql.toList =
      q.unsliced.fragment.sql.toList ++ (q.limitFragment ++ q.offsetFragment).sql.toList := by
    have limit : q.unsliced.limitFragment = .empty := rfl
    have offset : q.unsliced.offsetFragment = .empty := rfl
    have projection : q.unsliced.projectionFragment = q.projectionFragment := rfl
    have core : q.unsliced.coreFragment = q.coreFragment := rfl
    have order : q.unsliced.orderFragment = q.orderFragment := rfl
    simp [fragment, windowFragment, limit, offset, projection, core, order, Fragment.empty]
  exact List.isPrefixOf?_eq_some_iff_append_eq.2 bare.symm

/-- What the statement of a query asks for. -/
def slice (q : Select) : Sql.Slice := ⟨Sql.stated q.statedLimit, q.offset.toNat⟩

theorem sliced?_eq_slice {α : Type} (q : Select) (rows : List α) :
    q.sliced? rows = some (q.slice.of rows) := by
  have keywords : Plain "LIMIT" ∧ Plain "OFFSET" := by decide
  have limit := Sql.follows_count keywords.1 q.statedLimit
  have offset := Sql.follows_count keywords.2 q.offset
  have tokens := (limit.append offset).scans.tokens?
  have stated : (Sql.stated q.offset).getD 0 = q.offset.toNat := by
    unfold Sql.stated
    split
    · rfl
    · next none =>
      rw [UInt64.le_zero_iff.1 (UInt64.not_lt.1 none)]
      rfl
  rw [sliced?, sliceText?_eq, Sql.limitFragment_eq, Sql.offsetFragment_eq, Fragment.sql_append,
    String.toList_append, Option.bind_eq_bind, Option.bind_some, tokens, Option.bind_eq_bind,
    Option.bind_some, Sql.readSlice_countTokens, stated]
  rfl

end Select

/-! ## Rows -/

section Rows

variable {α : Type} {rows : List α}

/-- The rows with the indices from `first` on and before `last`. -/
def rowsBetween (rows : List α) (first last : Nat) : List α :=
  (rows.zipIdx.filter fun p => first ≤ p.2 ∧ p.2 < last).map Prod.fst

/-- Where counting starts at `k`, the first `first - k` rows are left out. -/
theorem map_filter_zipIdx (rows : List α) (k first last : Nat) :
    ((rows.zipIdx k).filter fun p => first ≤ p.2 ∧ p.2 < last).map Prod.fst =
      (rows.drop (first - k)).take (last - max first k) := by
  induction rows generalizing k with
  | nil => simp
  | cons a rows ih =>
    rw [List.zipIdx_cons, List.filter_cons]
    by_cases reached : first ≤ k
    · have noMore : first - k = 0 := Nat.sub_eq_zero_of_le reached
      have noMore' : first - (k + 1) = 0 := Nat.sub_eq_zero_of_le (Nat.le_succ_of_le reached)
      by_cases inside : k < last
      · have one : last - max first k = last - max first (k + 1) + 1 := by omega
        rw [if_pos (decide_eq_true ⟨reached, inside⟩), List.map_cons, ih, noMore, noMore', one,
          List.drop_zero, List.drop_zero, List.take_succ_cons]
      · have beyond : last - max first k = 0 := by omega
        have beyond' : last - max first (k + 1) = 0 := by omega
        rw [if_neg (by simp [inside]), ih, beyond, beyond', List.take_zero, List.take_zero]
    · have one : first - k = first - (k + 1) + 1 := by omega
      have same : max first (k + 1) = max first k := by omega
      rw [if_neg (by simp [reached]), ih, one, same, List.drop_succ_cons]

theorem rowsBetween_eq (rows : List α) (first last : Nat) :
    rowsBetween rows first last = (rows.drop first).take (last - first) := by
  rw [rowsBetween, map_filter_zipIdx, Nat.sub_zero, Nat.max_zero]

/-- Blocks of one length, one after another, are the beginning of the list. -/
theorem flatten_blocks (rows : List α) (size n : Nat) :
    ((List.range n).map fun k => (rows.drop (k * size)).take size).flatten = rows.take (n * size) := by
  induction n with
  | zero => simp
  | succ n ih =>
    rw [List.range_succ, List.map_append, List.map_singleton, List.flatten_concat, ih, Nat.succ_mul,
      List.take_add]

theorem toNat_ofNatClamp (n : Nat) : (UInt64.ofNatClamp n).toNat = min n (UInt64.size - 1) := by
  by_cases fits : n < UInt64.size
  · rw [UInt64.toNat_ofNatClamp_of_lt fits]
    omega
  · rw [UInt64.toNat_ofNatClamp_of_le (Nat.le_of_not_lt fits)]
    omega

/-- An offset that had to be clamped is past the end, as the offset itself is. -/
theorem drop_ofNatClamp (few : rows.length < UInt64.size) (n : Nat) :
    rows.drop (UInt64.ofNatClamp n).toNat = rows.drop n := by
  rw [toNat_ofNatClamp]
  by_cases fits : n ≤ UInt64.size - 1
  · rw [Nat.min_eq_left fits]
  · have past : rows.length ≤ min n (UInt64.size - 1) := by omega
    rw [List.drop_eq_nil_of_le past, List.drop_eq_nil_of_le (Nat.le_trans past (Nat.min_le_left _ _))]

end Rows

/-! ## Slices of queries -/

namespace Select

variable {α : Type} {rows : List α}

/-- The limit that stands for none keeps all rows. -/
theorem slice_of (q : Select) (few : rows.length < UInt64.size) : q.slice.of rows =
    if q.limit = 0 then rows.drop q.offset.toNat
    else (rows.drop q.offset.toNat).take q.limit.toNat := by
  unfold slice statedLimit
  by_cases unlimited : q.limit = 0
  · rw [if_pos unlimited]
    by_cases skipping : 0 < q.offset
    · have all : (rows.drop q.offset.toNat).length ≤ unboundedLimit.toNat := by
        have greatest : unboundedLimit.toNat = UInt64.size - 1 := rfl
        rw [List.length_drop]
        omega
      rw [if_pos ⟨unlimited, skipping⟩]
      exact List.take_of_length_le all
    · rw [if_neg fun h => skipping h.2, unlimited]
      rfl
  · have positive : 0 < q.limit := UInt64.pos_iff_ne_zero.2 unlimited
    rw [if_neg fun h => unlimited h.1, if_neg unlimited, Sql.stated, if_pos positive]
    rfl

theorem slice_paginate_of (q : Select) {page size : UInt64} (first : 1 ≤ page) (nonempty : 1 ≤ size)
    (few : rows.length < UInt64.size) : (q.paginate page size).slice.of rows =
      rowsBetween rows ((page.toNat - 1) * size.toNat) (page.toNat * size.toNat) := by
  have limited : (q.paginate page size).limit ≠ 0 := by
    rintro (zero : size = 0)
    subst zero
    exact absurd nonempty (by decide)
  have last : page.toNat * size.toNat - (page.toNat - 1) * size.toNat = size.toNat := by
    have before : page.toNat = page.toNat - 1 + 1 := (Nat.sub_add_cancel first).symm
    rw [before, Nat.succ_mul, Nat.add_sub_cancel, Nat.add_sub_cancel_left]
  rw [slice_of _ few, if_neg limited, rowsBetween_eq, last]
  exact congrArg (List.take size.toNat) (drop_ofNatClamp few _)

/-- The number of pages of a size that hold `n` rows. -/
def pageCount (n size : Nat) : Nat := (n + size - 1) / size

theorem le_pageCount_mul (n : Nat) {size : Nat} (nonempty : 0 < size) :
    n ≤ pageCount n size * size := by
  have whole := Nat.div_add_mod (n + size - 1) size
  have rest := Nat.mod_lt (n + size - 1) nonempty
  rw [Nat.mul_comm] at whole
  rw [pageCount]
  omega

/-- Every one of these pages starts in front of the end. -/
theorem mul_lt_of_lt_pageCount {n size k : Nat} (nonempty : 0 < size) (h : k < pageCount n size) :
    k * size < n := by
  have fits := (Nat.le_div_iff_mul_le nonempty).1 h
  rw [Nat.succ_mul] at fits
  omega

/-- **Limits, offsets and pages ask for what they say.** The statement of a query asks for the rows after
its offset, up to its limit unless that is 0. The statement of a page asks for the rows with the
indices of that page, whether its offset fits or not, and all pages one after another are all rows. -/
theorem sliced?_eq (q : Select) (few : rows.length < UInt64.size) :
    q.sliced? rows = some (if q.limit = 0 then rows.drop q.offset.toNat
      else (rows.drop q.offset.toNat).take q.limit.toNat) ∧
    (∀ page size : UInt64, 1 ≤ page → 1 ≤ size → (q.paginate page size).sliced? rows =
      some (rowsBetween rows ((page.toNat - 1) * size.toNat) (page.toNat * size.toNat))) ∧
    ∀ size : UInt64, 1 ≤ size → ∃ pages : List (List α),
      pages.length = (rows.length + size.toNat - 1) / size.toNat ∧
      (∀ k (h : k < pages.length),
        (q.paginate (.ofNat (k + 1)) size).sliced? rows = some pages[k]) ∧
      pages.flatten = rows := by
  have page {page size : UInt64} (first : 1 ≤ page) (nonempty : 1 ≤ size) :
      (q.paginate page size).sliced? rows =
        some (rowsBetween rows ((page.toNat - 1) * size.toNat) (page.toNat * size.toNat)) := by
    rw [sliced?_eq_slice, slice_paginate_of q first nonempty few]
  refine ⟨?_, fun _ _ => page, fun size nonempty => ?_⟩
  · rw [sliced?_eq_slice, slice_of q few]
  · have positive : 0 < size.toNat := nonempty
    refine ⟨(List.range (pageCount rows.length size.toNat)).map fun k =>
      (rows.drop (k * size.toNat)).take size.toNat, ?_, fun k h => ?_, ?_⟩
    · rw [List.length_map, List.length_range, pageCount]
    · rw [List.length_map, List.length_range] at h
      have fits : k + 1 < UInt64.size := by
        have before := mul_lt_of_lt_pageCount positive h
        have factor := Nat.le_mul_of_pos_right k positive
        omega
      have number : (UInt64.ofNat (k + 1)).toNat = k + 1 := UInt64.toNat_ofNat_of_lt' fits
      have first : 1 ≤ UInt64.ofNat (k + 1) := by
        rw [UInt64.le_iff_toNat_le, number]
        exact Nat.le_add_left 1 k
      rw [page first nonempty, number, rowsBetween_eq, Nat.add_sub_cancel, Nat.succ_mul,
        Nat.add_sub_cancel_left, List.getElem_map, List.getElem_range]
    · rw [flatten_blocks, List.take_of_length_le (le_pageCount_mul _ positive)]

/-- An offset alone, a page in the middle, the last one, and a page far behind, whose offset does not
fit. -/
theorem letters_sliced : ['a', 'b', 'c', 'd', 'e'].length < UInt64.size ∧
    ((all (.named "user")).skip 3).sliced? ['a', 'b', 'c', 'd', 'e'] = some ['d', 'e'] ∧
    ((all (.named "user")).paginate 2 2).sliced? ['a', 'b', 'c', 'd', 'e'] = some ['c', 'd'] ∧
    ((all (.named "user")).paginate 3 2).sliced? ['a', 'b', 'c', 'd', 'e'] = some ['e'] ∧
    ((all (.named "user")).paginate 9223372036854775809 3).sliced? ['a', 'b', 'c', 'd', 'e'] =
      some [] := by
  have few : ['a', 'b', 'c', 'd', 'e'].length < UInt64.size := by decide
  have pages := (sliced?_eq (all (.named "user")) few).2.1
  refine ⟨few, (sliced?_eq ((all (.named "user")).skip 3) few).1, ?_, ?_, ?_⟩
  · exact pages 2 2 (by decide) (by decide)
  · exact pages 3 2 (by decide) (by decide)
  · rw [pages 9223372036854775809 3 (by decide) (by decide), rowsBetween_eq]
    rfl

end Select

end QueryBuilder
