import QueryBuilder.Compile
import QueryBuilder.Proofs.Builder
import QueryBuilder.Proofs.Sql.Select

/-!
# What a select statement keeps

The parts of a select statement can be read off from its text and its parameters. Each part shows
where it ends: a field at a character that no field has, a join by its number of tokens, the
condition at the first token that does not go on with it (`Derives.read`), every list at a keyword
that comes later. So two queries with the same statement agree in all of it, and only what is not
stated can differ. Main statement: `compile_select_eq_iff`.
-/

namespace QueryBuilder
set_option autoImplicit false

namespace Sql

/-! ## Lists of pieces -/

section Pieces

variable {α τ : Type} {code : α → List τ} {good : α → Prop} {ends : List τ → Prop}

/-- The code of each good element can be split off from every rest that ends it, and a code ends
the one before it. -/
structure SelfDelimiting (code : α → List τ) (good : α → Prop) (ends : List τ → Prop) : Prop where
  ends_code : ∀ a rest, ends (code a ++ rest)
  unique : ∀ a b rest rest', good a → good b → ends rest → ends rest' →
    code a ++ rest = code b ++ rest' → a = b ∧ rest = rest'

/-- The codes of a list stop at a rest that ends a code and starts with none. -/
structure Stops (code : α → List τ) (ends : List τ → Prop) (rest : List τ) : Prop where
  ends_rest : ends rest
  ne_code : ∀ a r, rest ≠ code a ++ r

theorem SelfDelimiting.list_unique (delimiting : SelfDelimiting code good ends) {as bs : List α}
    {rest rest' : List τ} (has : ∀ a ∈ as, good a) (hbs : ∀ b ∈ bs, good b)
    (hrest : Stops code ends rest) (hrest' : Stops code ends rest')
    (h : as.flatMap code ++ rest = bs.flatMap code ++ rest') : as = bs ∧ rest = rest' := by
  -- every code is followed by the next one or by the rest
  have ended : ∀ (cs : List α) (r : List τ), Stops code ends r → ends (cs.flatMap code ++ r) := by
    intro cs r hr
    cases cs with
    | nil => exact hr.ends_rest
    | cons c cs =>
      rw [List.flatMap_cons, List.append_assoc]
      exact delimiting.ends_code c _
  induction as generalizing bs with
  | nil =>
    cases bs with
    | nil => exact ⟨rfl, h⟩
    | cons b bs =>
      rw [List.flatMap_cons, List.append_assoc] at h
      exact absurd h (hrest.ne_code b _)
  | cons a as ih =>
    cases bs with
    | nil =>
      rw [List.flatMap_cons, List.append_assoc] at h
      exact absurd h.symm (hrest'.ne_code a _)
    | cons b bs =>
      rw [List.flatMap_cons, List.flatMap_cons, List.append_assoc, List.append_assoc] at h
      obtain ⟨heads, tails⟩ := delimiting.unique a b _ _ (has a List.mem_cons_self)
        (hbs b List.mem_cons_self) (ended as rest hrest) (ended bs rest' hrest') h
      obtain ⟨rests, hr⟩ := ih (fun c hc => has c (List.mem_cons_of_mem _ hc))
        (fun c hc => hbs c (List.mem_cons_of_mem _ hc)) tails
      exact ⟨by rw [heads, rests], hr⟩

end Pieces

/-! ## The projection -/

/-- A rest that does not go on with a field. -/
def EndsField (rest : List Char) : Prop := ∀ c ∈ rest.head?, isFieldChar c = false

theorem fields_selfDelimiting :
    SelfDelimiting (fun f : String => ',' :: ' ' :: f.toList) PlainField EndsField where
  ends_code := by
    intro f rest c hc
    cases hc
    decide
  unique := by
    intro f g rest rest' hf hg hrest hrest' h
    have inner : f.toList ++ rest = g.toList ++ rest' := (List.cons.inj (List.cons.inj h).2).2
    obtain ⟨same, rests⟩ := run_unique hf.2 hg.2 hrest hrest' inner
    exact ⟨String.toList_injective same, rests⟩

theorem sql_projectionFragment {q : Select} {f : String} {fs : List String} (h : q.fields = f :: fs) :
    q.projectionFragment.sql.toList = f.toList ++ fs.flatMap fun g => ',' :: ' ' :: g.toList := by
  rw [Select.projectionFragment, h, if_neg (by simp), List.map_cons,
    Fragment.sql_commaSeparated_cons, List.flatMap_map]
  rfl

theorem sql_projectionFragment_nil {q : Select} (h : q.fields = []) :
    q.projectionFragment.sql.toList = ['*'] := by
  rw [Select.projectionFragment, h]
  rfl

/-- The separator of fields starts with a comma, what follows the projection with a blank. -/
theorem stops_fields (rest : List Char) :
    Stops (fun f : String => ',' :: ' ' :: f.toList) EndsField (' ' :: rest) := by
  constructor
  · intro c hc
    cases hc
    decide
  · intro f r h
    exact absurd (List.cons.inj h).1 (by decide)

/-- No field starts like the projection of all columns. -/
theorem star_cons_ne {f : String} (h : PlainField f) (rest rest' : List Char) :
    '*' :: rest ≠ f.toList ++ rest' := by
  intro same
  obtain ⟨c, cs, hcs⟩ := List.exists_cons_of_ne_nil h.1
  rw [hcs] at same
  have star : isFieldChar '*' = true := by
    rw [(List.cons.inj same).1]
    exact h.2 c (hcs ▸ List.mem_cons_self)
  revert star
  decide

/-- The projection ends at a blank. -/
theorem projection_unique {q q' : Select} {rest rest' : List Char} (hq : ∀ f ∈ q.fields, PlainField f)
    (hq' : ∀ f ∈ q'.fields, PlainField f)
    (h : q.projectionFragment.sql.toList ++ ' ' :: rest =
      q'.projectionFragment.sql.toList ++ ' ' :: rest') :
    q.fields = q'.fields ∧ rest = rest' := by
  cases hfs : q.fields with
  | nil =>
    cases hgs : q'.fields with
    | nil =>
      rw [sql_projectionFragment_nil hfs, sql_projectionFragment_nil hgs] at h
      exact ⟨rfl, (List.cons.inj (List.cons.inj h).2).2⟩
    | cons g gs =>
      rw [sql_projectionFragment_nil hfs, sql_projectionFragment hgs, List.append_assoc] at h
      exact absurd h (star_cons_ne (hq' g (hgs ▸ List.mem_cons_self)) _ _)
  | cons f fs =>
    cases hgs : q'.fields with
    | nil =>
      rw [sql_projectionFragment_nil hgs, sql_projectionFragment hfs, List.append_assoc] at h
      exact absurd h.symm (star_cons_ne (hq f (hfs ▸ List.mem_cons_self)) _ _)
    | cons g gs =>
      rw [sql_projectionFragment hfs, sql_projectionFragment hgs] at h
      -- with a separator in front, both projections are lists of pieces
      have pieces := congrArg (',' :: ' ' :: ·) h
      obtain ⟨fields, rests⟩ := fields_selfDelimiting.list_unique (hfs ▸ hq) (hgs ▸ hq')
        (stops_fields rest) (stops_fields rest') (by simpa using pieces)
      exact ⟨fields, (List.cons.inj rests).2⟩

/-! ## The tokens after the projection -/

/-- The tokens, if there are any, start with one of the words. -/
def Begins (words : List String) (ts : List Token) : Prop :=
  ∀ t ∈ ts.head?, ∃ w ∈ words, t = .word w

/-- The keywords that can follow a condition. -/
def windowWords : List String := ["ORDER", "LIMIT", "OFFSET"]

section Begins

variable {words more : List String} {ts us : List Token}

theorem begins_nil : Begins words [] := by
  intro t ht
  cases ht

theorem begins_cons {w : String} (h : w ∈ words) : Begins words (.word w :: ts) := by
  intro t ht
  cases ht
  exact ⟨w, h, rfl⟩

theorem Begins.ne_word_cons {w : String} (h : Begins words ts) (fresh : w ∉ words) :
    ts ≠ .word w :: us := by
  rintro rfl
  obtain ⟨v, hv, same⟩ := h _ rfl
  rw [Token.word_inj.1 same] at fresh
  exact fresh hv

theorem Begins.mono (h : Begins words ts) (sub : ∀ w ∈ words, w ∈ more) : Begins more ts := by
  intro t ht
  obtain ⟨w, hw, same⟩ := h t ht
  exact ⟨w, sub w hw, same⟩

theorem Begins.append (hts : Begins words ts) (hus : Begins words us) : Begins words (ts ++ us) := by
  cases ts with
  | nil => exact hus
  | cons t ts => exact hts

theorem Begins.endsCondition (h : Begins windowWords ts) : EndsCondition ts := by
  intro t ht
  obtain ⟨w, hw, rfl⟩ := h t ht
  constructor
  · intro same
    rw [Token.word_inj.1 same] at hw
    revert hw
    decide
  · intro same
    rw [Token.word_inj.1 same] at hw
    revert hw
    decide

end Begins

theorem begins_countTokens {words : List String} {keyword : String} (h : keyword ∈ words)
    (n : UInt64) : Begins words (countTokens keyword n) := by
  unfold countTokens
  split
  · exact begins_cons h
  · exact begins_nil

theorem begins_counts (limit offset : UInt64) :
    Begins ["LIMIT", "OFFSET"] (countTokens "LIMIT" limit ++ countTokens "OFFSET" offset) :=
  (begins_countTokens (by decide) limit).append (begins_countTokens (by decide) offset)

theorem begins_windowTokens (q : Select) : Begins windowWords (windowTokens q) := by
  have order : Begins windowWords (orderTokens q.order) := by
    cases q.order with
    | nil => exact begins_nil
    | cons k ks => exact begins_cons (by decide)
  exact order.append ((begins_counts _ _).mono (by decide))

theorem kindWord_injective {k k' : JoinKind} (h : kindWord k = kindWord k') : k = k' := by
  revert h
  cases k <;> cases k' <;> decide

theorem joins_selfDelimiting :
    SelfDelimiting joinTokens (fun _ => True) (fun _ => True) where
  ends_code _ _ := trivial
  unique := by
    rintro ⟨kind, table, fk, pk⟩ ⟨kind', table', fk', pk'⟩ rest rest' - - - - h
    simp only [joinTokens, List.cons_append, List.nil_append, List.cons.injEq, Token.word_inj,
      Token.name.injEq, true_and] at h
    obtain ⟨kinds, rfl, rfl, rfl, rests⟩ := h
    rw [kindWord_injective kinds]
    exact ⟨rfl, rests⟩

theorem stops_joins {ts : List Token} (h : Begins ("WHERE" :: windowWords) ts) :
    Stops joinTokens (fun _ => True) ts := by
  refine ⟨trivial, fun p r => h.ne_word_cons ?_⟩
  cases p.kind <;> decide

theorem keys_selfDelimiting :
    SelfDelimiting (fun k => .comma :: keyTokens k) (fun _ => True) (fun _ => True) where
  ends_code _ _ := trivial
  unique := by
    rintro ⟨column, direction⟩ ⟨column', direction'⟩ rest rest' - - - - h
    simp only [keyTokens, List.cons_append, List.nil_append, List.cons.injEq, Token.word_inj,
      Token.name.injEq, true_and] at h
    obtain ⟨rfl, directions, rests⟩ := h
    have same : direction = direction' := by
      revert directions
      cases direction <;> cases direction' <;> decide
    rw [same]
    exact ⟨rfl, rests⟩

theorem stops_keys {words : List String} {ts : List Token} (h : Begins words ts) :
    Stops (fun k => .comma :: keyTokens k) (fun _ => True) ts := by
  refine ⟨trivial, fun k r same => ?_⟩
  obtain ⟨w, _, comma⟩ := h .comma (same ▸ rfl)
  cases comma

theorem filter_unique {f f' : Option Clause} {rest rest' : List Token}
    (begins : Begins windowWords rest) (begins' : Begins windowWords rest')
    (params : (f.toList.flatMap fun c => c.fragment.params) =
      f'.toList.flatMap fun c => c.fragment.params)
    (h : filterTokens f ++ rest = filterTokens f' ++ rest') : f = f' ∧ rest = rest' := by
  cases f with
  | none =>
    cases f' with
    | none => exact ⟨rfl, h⟩
    | some c' => exact absurd h (begins.ne_word_cons (by decide))
  | some c =>
    cases f' with
    | none => exact absurd h.symm (begins'.ne_word_cons (by decide))
    | some c' =>
      have read := (derives_clause c).1.read begins.endsCondition []
      have read' := (derives_clause c').1.read begins'.endsCondition []
      have tokens : clauseTokens c ++ rest = clauseTokens c' ++ rest' := (List.cons.inj h).2
      have values : c.fragment.params = c'.fragment.params := by simpa using params
      rw [tokens, values, read'] at read
      obtain ⟨clauses, rests⟩ := Prod.mk.inj (Option.some.inj read)
      exact ⟨congrArg some clauses.symm, (Prod.mk.inj rests).1.symm⟩

theorem order_unique {ks ks' : List SortKey} {rest rest' : List Token}
    (begins : Begins ["LIMIT", "OFFSET"] rest) (begins' : Begins ["LIMIT", "OFFSET"] rest')
    (h : orderTokens ks ++ rest = orderTokens ks' ++ rest') : ks = ks' ∧ rest = rest' := by
  cases ks with
  | nil =>
    cases ks' with
    | nil => exact ⟨rfl, h⟩
    | cons k' ks' => exact absurd h (begins.ne_word_cons (by decide))
  | cons k ks =>
    cases ks' with
    | nil => exact absurd h.symm (begins'.ne_word_cons (by decide))
    | cons k' ks' =>
      have keys := congrArg (Token.comma :: ·) (List.cons.inj (List.cons.inj h).2).2
      exact keys_selfDelimiting.list_unique (fun _ _ => trivial) (fun _ _ => trivial)
        (stops_keys begins) (stops_keys begins') (by simpa using keys)

theorem numeral_injective {m n : UInt64} (h : numeral m = numeral n) : m = n := by
  have digits := String.ofList_injective (Token.word_inj.1 h)
  exact UInt64.toNat_inj.1 (Number.digits_injective digits)

/-- A count of 0 is the one that is left out. -/
theorem count_unique {words : List String} {keyword : String} {m n : UInt64}
    {rest rest' : List Token} (begins : Begins words rest) (begins' : Begins words rest')
    (fresh : keyword ∉ words) (h : countTokens keyword m ++ rest = countTokens keyword n ++ rest') :
    m = n ∧ rest = rest' := by
  unfold countTokens at h
  have zero : ∀ k : UInt64, ¬ 0 < k → k = 0 := by
    intro k hk
    exact UInt64.le_zero_iff.1 (UInt64.not_lt.1 hk)
  by_cases hm : 0 < m
  · rw [if_pos hm] at h
    by_cases hn : 0 < n
    · rw [if_pos hn] at h
      obtain ⟨numerals, rests⟩ := List.cons.inj (List.cons.inj h).2
      exact ⟨numeral_injective numerals, rests⟩
    · rw [if_neg hn] at h
      exact absurd h.symm (begins'.ne_word_cons fresh)
  · rw [if_neg hm] at h
    by_cases hn : 0 < n
    · rw [if_pos hn] at h
      exact absurd h (begins.ne_word_cons fresh)
    · rw [if_neg hn] at h
      exact ⟨(zero m hm).trans (zero n hn).symm, h⟩

theorem windowTokens_unique {q q' : Select} (h : windowTokens q = windowTokens q') :
    q.order = q'.order ∧ q.statedLimit = q'.statedLimit ∧ q.offset = q'.offset := by
  have offset : ∀ n, Begins ["OFFSET"] (countTokens "OFFSET" n) := begins_countTokens (by decide)
  obtain ⟨orders, rest⟩ := order_unique (begins_counts _ _) (begins_counts _ _) h
  obtain ⟨limits, rest⟩ := count_unique (offset _) (offset _) (by decide) rest
  have ends : countTokens "OFFSET" q.offset ++ [] = countTokens "OFFSET" q'.offset ++ [] := by
    rw [rest]
  have nothing : Begins [] [] := begins_nil
  obtain ⟨offsets, _⟩ := count_unique nothing nothing (by decide) ends
  exact ⟨orders, limits, offsets⟩

theorem bodyTokens_unique {q q' : Select} (params : q.fragment.params = q'.fragment.params)
    (h : bodyTokens q = bodyTokens q') :
    q.model.table = q'.model.table ∧ q.joins.map Join.phrase = q'.joins.map Join.phrase ∧
      q.filter = q'.filter ∧ windowTokens q = windowTokens q' := by
  have begins : ∀ q : Select,
      Begins ("WHERE" :: windowWords) (filterTokens q.filter ++ windowTokens q) := by
    intro q
    have filter : Begins ("WHERE" :: windowWords) (filterTokens q.filter) := by
      cases q.filter with
      | none => exact begins_nil
      | some c => exact begins_cons List.mem_cons_self
    exact filter.append ((begins_windowTokens q).mono fun w hw => List.mem_cons_of_mem _ hw)
  rw [Select.params_fragment, Select.params_fragment] at params
  obtain ⟨tables, rest⟩ := List.cons.inj (List.cons.inj h).2
  obtain ⟨joins, rest⟩ := joins_selfDelimiting.list_unique (fun _ _ => trivial) (fun _ _ => trivial)
    (stops_joins (begins q)) (stops_joins (begins q')) rest
  obtain ⟨filters, windows⟩ :=
    filter_unique (begins_windowTokens q) (begins_windowTokens q') params rest
  exact ⟨Token.word_inj.1 tables, joins, filters, windows⟩

end Sql

/-! ## Select queries with the same statement -/

/-- Limits that bound no result, if a limit has to be stated. -/
def Unbounded (n : UInt64) : Prop := n = 0 ∨ n = Select.unboundedLimit

instance (n : UInt64) : Decidable (Unbounded n) := inferInstanceAs (Decidable (_ ∨ _))

namespace Select

/-- Agreement of two queries in what a statement tells. Since an offset comes with a limit, no limit
and the greatest one are the same there. -/
structure SameStatement (q q' : Select) : Prop where
  table : q.model.table = q'.model.table
  fields : q.fields = q'.fields
  joins : q.joins.map Join.phrase = q'.joins.map Join.phrase
  filter : q.filter = q'.filter
  order : q.order = q'.order
  offset : q.offset = q'.offset
  limit : q.limit = q'.limit ∨ 0 < q.offset ∧ Unbounded q.limit ∧ Unbounded q'.limit

theorem statedLimit_of_unbounded {q : Select} (offset : 0 < q.offset) (limit : Unbounded q.limit) :
    q.statedLimit = unboundedLimit := by
  unfold statedLimit
  rcases limit with zero | greatest
  · rw [if_pos ⟨zero, offset⟩]
  · rw [greatest, if_neg fun h => absurd h.1 (by decide)]

/-- The limit is stated as it is, or it is stated as the greatest one. -/
theorem statedLimit_cases (q : Select) :
    q.statedLimit = q.limit ∨ q.limit = 0 ∧ 0 < q.offset ∧ q.statedLimit = unboundedLimit := by
  unfold statedLimit
  split
  · next h => exact .inr ⟨h.1, h.2, rfl⟩
  · exact .inl rfl

theorem statedLimit_eq_iff {q q' : Select} (offset : q.offset = q'.offset) :
    q.statedLimit = q'.statedLimit ↔
      q.limit = q'.limit ∨ 0 < q.offset ∧ Unbounded q.limit ∧ Unbounded q'.limit := by
  constructor
  · intro h
    rcases q.statedLimit_cases with same | ⟨zero, skipping, greatest⟩
    · rcases q'.statedLimit_cases with same' | ⟨zero', skipping', greatest'⟩
      · exact .inl (same.symm.trans (h.trans same'))
      · have limit : q.limit = unboundedLimit := same.symm.trans (h.trans greatest')
        exact .inr ⟨offset ▸ skipping', .inr limit, .inl zero'⟩
    · rcases q'.statedLimit_cases with same' | ⟨zero', _, _⟩
      · have limit : q'.limit = unboundedLimit := same'.symm.trans (h.symm.trans greatest)
        exact .inr ⟨skipping, .inl zero, .inr limit⟩
      · exact .inl (zero.trans zero'.symm)
  · rintro (same | ⟨skipping, unbounded, unbounded'⟩)
    · unfold statedLimit
      rw [same, offset]
    · rw [statedLimit_of_unbounded skipping unbounded,
        statedLimit_of_unbounded (offset ▸ skipping) unbounded']

theorem joins_congr {js js' : List Join} (h : js.map Join.phrase = js'.map Join.phrase) :
    (js.map fun j => Fragment.text " " ++ j.fragment) =
      js'.map fun j => Fragment.text " " ++ j.fragment := by
  induction js generalizing js' with
  | nil =>
    rw [List.map_eq_nil_iff.1 h.symm]
  | cons j js ih =>
    cases js' with
    | nil => cases h
    | cons j' js' =>
      obtain ⟨phrases, rest⟩ := List.cons.inj h
      obtain ⟨kind, table, on⟩ := Join.Phrase.mk.inj phrases
      rw [List.map_cons, List.map_cons, ih rest, Join.fragment, Join.fragment, kind, table, on]

theorem SameStatement.fragment_eq {q q' : Select} (h : q.SameStatement q') :
    q.fragment = q'.fragment := by
  have projection : q.projectionFragment = q'.projectionFragment := by
    unfold projectionFragment
    rw [h.fields]
  have source : q.sourceFragment = q'.sourceFragment := by
    unfold sourceFragment
    rw [h.table, joins_congr h.joins]
  have filter : q.filterFragment = q'.filterFragment := by
    unfold filterFragment
    rw [h.filter]
  have order : q.orderFragment = q'.orderFragment := by
    unfold orderFragment
    rw [h.order]
  have limit : q.limitFragment = q'.limitFragment := by
    rw [Sql.limitFragment_eq, Sql.limitFragment_eq, (statedLimit_eq_iff h.offset).2 h.limit]
  have offset : q.offsetFragment = q'.offsetFragment := by
    unfold offsetFragment
    rw [h.offset]
  unfold fragment coreFragment windowFragment
  rw [projection, source, filter, order, limit, offset]

/-- What follows the projection begins with a blank. -/
theorem exists_body (q : Select) :
    ∃ cs, (q.coreFragment ++ q.windowFragment).sql.toList = ' ' :: cs := by
  simp [coreFragment, sourceFragment]

theorem sameStatement_of_fragment_eq {q q' : Select} (hq : ∀ s ∈ q.names, Plain s)
    (hq' : ∀ s ∈ q'.names, Plain s) (fields : ∀ f ∈ q.fields, PlainField f)
    (fields' : ∀ f ∈ q'.fields, PlainField f) (h : q.fragment = q'.fragment) :
    q.SameStatement q' := by
  obtain ⟨body, hbody⟩ := q.exists_body
  obtain ⟨body', hbody'⟩ := q'.exists_body
  have text : q.projectionFragment.sql.toList ++ ' ' :: body =
      q'.projectionFragment.sql.toList ++ ' ' :: body' := by
    have texts := congrArg (fun f : Fragment => f.sql.toList) h
    rw [← hbody, ← hbody']
    simpa [fragment] using texts
  obtain ⟨sameFields, bodies⟩ := Sql.projection_unique fields fields' text
  have scanned := (Sql.follows_body hq).scans.tokens?
  have scanned' := (Sql.follows_body hq').scans.tokens?
  rw [hbody, bodies, ← hbody', scanned'] at scanned
  obtain ⟨tables, joins, filters, windows⟩ :=
    Sql.bodyTokens_unique (congrArg Fragment.params h) (Option.some.inj scanned).symm
  obtain ⟨orders, limits, offsets⟩ := Sql.windowTokens_unique windows
  exact ⟨tables, sameFields, joins, filters, orders, offsets, (statedLimit_eq_iff offsets).1 limits⟩

end Select

/-- **A select statement tells the query.** Two queries that can be built compile to the same text
with the same parameters exactly if they have the same table, projection, joins, condition, order
and offset and the same limit, or an offset and limits that bound nothing. -/
theorem compile_select_eq_iff {q q' : Select} (built : q.Reachable) (built' : q'.Reachable)
    (plain : q.PlainNames) (plain' : q'.PlainNames) :
    (∃ f, Dialect.mysql.compile (.select q) = .ok f ∧ Dialect.mysql.compile (.select q') = .ok f) ↔
      q.SameStatement q' := by
  constructor
  · rintro ⟨f, compiled, compiled'⟩
    have same : q.fragment = q'.fragment := by
      rw [Except.ok.inj compiled, Except.ok.inj compiled']
    exact Select.sameStatement_of_fragment_eq (plain.names built) (plain'.names built') plain.fields
      plain'.fields same
  · intro same
    refine ⟨q.fragment, rfl, ?_⟩
    rw [same.fragment_eq]
    rfl

/-- A model of authors. -/
def userModel : Model := (Model.named "user").add (.plain "name" .text)

/-- A model whose field `author` refers to `userModel`. -/
def postModel : Model :=
  ((Model.named "post").add (.plain "title" .text)).add (.foreign "author" userModel)

/-- A page of the posts by an author, all from the fourth one on if the limit is 0. -/
def authorPosts (limit : UInt64) : Select where
  model := postModel
  fields := ["post.title", "COUNT(1)"]
  filter := some (.eq (.qualified "user" "name") (.string "ann"))
  order := [⟨.qualified "post" "id", .descending⟩, ⟨.unqualified "title", .ascending⟩]
  joins := [⟨postModel, userModel, .left, ⟨.qualified "post" "author_id", .qualified "user" "id"⟩⟩]
  limit := limit
  offset := 3

theorem authorPosts_reachable (limit : UInt64) : (authorPosts limit).Reachable := by
  have joined : (Select.all postModel).apply (.join userModel .left) =
      .ok { Select.all postModel with joins := (authorPosts limit).joins } := by rfl
  have base := (Select.Reachable.all postModel).step joined
  have ordered := ((base.step (s := .project ["post.title", "COUNT(1)"]) rfl).step
    (s := .orderBy ⟨.qualified "post" "id", .descending⟩) rfl).step
    (s := .orderBy ⟨.unqualified "title", .ascending⟩) rfl
  exact ((ordered.step (s := .restrict (.eq (.qualified "user" "name") (.string "ann"))) rfl).step
    (s := .limit limit) rfl).step (s := .offset 3) rfl

theorem authorPosts_plainNames (limit : UInt64) : (authorPosts limit).PlainNames where
  models := by
    show ∀ m ∈ [postModel, userModel], ∀ s ∈ m.names, Plain s
    decide
  fields := by
    show ∀ f ∈ ["post.title", "COUNT(1)"], PlainField f
    decide
  filter := by
    intro c hc
    cases hc
    decide
  order := by
    show ∀ k ∈ [SortKey.mk (.qualified "post" "id") .descending, ⟨.unqualified "title", .ascending⟩],
      ∀ s ∈ k.column.names, Plain s
    decide

/-- Behind an offset the greatest limit reads like none, and every other limit can be told. -/
theorem authorPosts_limits :
    (∀ n, (authorPosts n).Reachable ∧ (authorPosts n).PlainNames) ∧
    (∃ f, Dialect.mysql.compile (.select (authorPosts 0)) = .ok f ∧
      Dialect.mysql.compile (.select (authorPosts Select.unboundedLimit)) = .ok f) ∧
    ¬ ∃ f, Dialect.mysql.compile (.select (authorPosts 0)) = .ok f ∧
      Dialect.mysql.compile (.select (authorPosts 10)) = .ok f := by
  refine ⟨fun n => ⟨authorPosts_reachable n, authorPosts_plainNames n⟩, ?_, ?_⟩
  · refine (compile_select_eq_iff (authorPosts_reachable 0) (authorPosts_reachable _)
      (authorPosts_plainNames 0) (authorPosts_plainNames _)).2 ?_
    exact ⟨rfl, rfl, rfl, rfl, rfl, rfl, .inr (by decide)⟩
  · intro compiled
    have same := (compile_select_eq_iff (authorPosts_reachable 0) (authorPosts_reachable _)
      (authorPosts_plainNames 0) (authorPosts_plainNames _)).1 compiled
    have limits := same.limit
    revert limits
    decide

end QueryBuilder
