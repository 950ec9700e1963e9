import QueryBuilder.Proofs.Name

/-!
# Tokens

`tokens?` splits a text into the tokens of SQL: names, comparison operators, placeholders,
parentheses and commas. Blanks only separate tokens. A name is an identifier or two identifiers
joined by a dot, taken as long as possible; keywords and numerals are identifiers like any other,
and only a grammar tells them apart.

`Scans s ts` says what a piece of a statement contributes in front of any rest that does not go on
with its last token. Pieces that are set off from each other can be put together
(`Scans.append`), so the tokens of a statement follow from those of its pieces.
-/

namespace QueryBuilder.Sql
set_option autoImplicit false

inductive Token where
  | name (c : Column)
  | comparison (op : Comparison)
  /-- The placeholder `?`. -/
  | mark
  | opening
  | closing
  | comma
  deriving DecidableEq

/-- An identifier without a table, or a keyword. -/
def Token.word (w : String) : Token := .name (.unqualified w)

@[simp] theorem Token.word_inj {v w : String} : word v = word w ↔ v = w := by
  simp [word, Column.unqualified]

/-- The characters of identifiers and the dot between two of them. -/
def isNameChar (c : Char) : Bool := isWordChar c || c == '.'

/-- The column with a name, if each part of the name is plain. -/
def columnOf? (run : List Char) : Option Column :=
  match Column.splitAtDot? run with
  | some (table, name) =>
    if Plain (.ofList table) ∧ Plain (.ofList name) then
      some (.qualified (.ofList table) (.ofList name))
    else none
  | none => if Plain (.ofList run) then some (.unqualified (.ofList run)) else none

/-- The tokens of a text, if it consists of tokens and blanks. -/
def tokens? : List Char → Option (List Token)
  | [] => some []
  | ' ' :: cs => tokens? cs
  | '?' :: cs => (tokens? cs).map (.mark :: ·)
  | '(' :: cs => (tokens? cs).map (.opening :: ·)
  | ')' :: cs => (tokens? cs).map (.closing :: ·)
  | ',' :: cs => (tokens? cs).map (.comma :: ·)
  | '=' :: cs => (tokens? cs).map (.comparison .eq :: ·)
  | '<' :: '=' :: cs => (tokens? cs).map (.comparison .le :: ·)
  | '<' :: cs => (tokens? cs).map (.comparison .lt :: ·)
  | '>' :: '=' :: cs => (tokens? cs).map (.comparison .ge :: ·)
  | '>' :: cs => (tokens? cs).map (.comparison .gt :: ·)
  | c :: cs => do
    let column ← columnOf? (c :: cs.takeWhile isNameChar)
    let rest ← tokens? (cs.dropWhile isNameChar)
    return .name column :: rest
termination_by cs => cs.length
decreasing_by
  all_goals simp only [List.length_cons]
  all_goals try omega
  have := (List.dropWhile_suffix (l := cs) isNameChar).length_le
  omega

/-- A rest that does not go on with the token before it. -/
def Delimited (rest : List Char) : Prop := ∀ c ∈ rest.head?, isNameChar c = false ∧ c ≠ '='

theorem delimited_nil : Delimited [] := by
  intro c hc
  cases hc

theorem delimited_cons {c : Char} (h : isNameChar c = false ∧ c ≠ '=') (rest : List Char) :
    Delimited (c :: rest) := by
  intro c' hc'
  cases hc'
  exact h

theorem delimited_blank (rest : List Char) : Delimited (' ' :: rest) :=
  delimited_cons (by decide) rest

/-- The text `s` stands for the tokens `ts` in front of every rest that does not go on with it. -/
def Scans (s : List Char) (ts : List Token) : Prop :=
  ∀ rest, Delimited rest → tokens? (s ++ rest) = (tokens? rest).map (ts ++ ·)

theorem Scans.tokens? {s : List Char} {ts : List Token} (h : Scans s ts) : tokens? s = some ts := by
  have whole := h [] delimited_nil
  simpa [Sql.tokens?] using whole

/-! ## Symbols -/

theorem scans_nil : Scans [] [] := by
  intro rest _
  simp

theorem scans_mark : Scans ['?'] [.mark] := by
  intro rest _
  rw [List.singleton_append, tokens?]
  rfl

/-- The delimiter keeps `<` and `>` apart from a following `=`. -/
theorem scans_symbol (op : Comparison) : Scans op.symbol.toList [.comparison op] := by
  intro rest hrest
  have noEq : ∀ cs, rest = '=' :: cs → False := by
    rintro cs rfl
    exact (hrest '=' rfl).2 rfl
  cases op with
  | eq =>
    show tokens? ('=' :: rest) = _
    rw [tokens?]
    rfl
  | lt =>
    show tokens? ('<' :: rest) = _
    rw [tokens?]
    · rfl
    · exact noEq
  | le =>
    show tokens? ('<' :: '=' :: rest) = _
    rw [tokens?]
    rfl
  | gt =>
    show tokens? ('>' :: rest) = _
    rw [tokens?]
    · rfl
    · exact noEq
  | ge =>
    show tokens? ('>' :: '=' :: rest) = _
    rw [tokens?]
    rfl

theorem Scans.leading {s : List Char} {ts : List Token} (h : Scans s ts) : Scans (' ' :: s) ts := by
  intro rest hrest
  rw [List.cons_append, Sql.tokens?]
  exact h rest hrest

/-- Pieces of which the second is set off from the first. -/
theorem Scans.append {s t : List Char} {ts us : List Token} (hs : Scans s ts) (ht : Scans t us)
    (apart : ∀ rest, Delimited rest → Delimited (t ++ rest)) : Scans (s ++ t) (ts ++ us) := by
  intro rest hrest
  rw [List.append_assoc, hs _ (apart rest hrest), ht rest hrest, Option.map_map]
  congr 1
  funext rest
  exact (List.append_assoc ..).symm

theorem Scans.spaced {s t : List Char} {ts us : List Token} (hs : Scans s ts) (ht : Scans t us) :
    Scans (s ++ ' ' :: t) (ts ++ us) :=
  hs.append ht.leading fun _ _ => delimited_blank _

theorem Scans.enclosed {s : List Char} {ts : List Token} (h : Scans s ts) :
    Scans ('(' :: s ++ [')']) (.opening :: ts ++ [.closing]) := by
  intro rest _
  have close : Delimited (')' :: rest) := delimited_cons (by decide) rest
  rw [List.append_assoc, List.cons_append, Sql.tokens?, List.singleton_append, h _ close, Sql.tokens?]
  cases Sql.tokens? rest with
  | none => rfl
  | some us => simp

/-- Text that begins with what sets it off from the piece before it. -/
structure Follows (s : List Char) (ts : List Token) : Prop where
  scans : Scans s ts
  apart : ∀ rest, Delimited rest → Delimited (s ++ rest)

theorem follows_nil : Follows [] [] := ⟨scans_nil, fun _ hrest => hrest⟩

theorem Scans.after_blank {s : List Char} {ts : List Token} (h : Scans s ts) :
    Follows (' ' :: s) ts :=
  ⟨h.leading, fun _ _ => delimited_blank _⟩

theorem Scans.after_comma {s : List Char} {ts : List Token} (h : Scans s ts) :
    Follows (',' :: ' ' :: s) (.comma :: ts) := by
  refine ⟨?_, fun _ _ => delimited_cons (by decide) _⟩
  intro rest hrest
  rw [List.cons_append, Sql.tokens?, h.leading rest hrest, Option.map_map]
  rfl

theorem Scans.followed {s t : List Char} {ts us : List Token} (hs : Scans s ts)
    (ht : Follows t us) : Scans (s ++ t) (ts ++ us) :=
  hs.append ht.scans ht.apart

theorem Follows.append {s t : List Char} {ts us : List Token} (hs : Follows s ts)
    (ht : Follows t us) : Follows (s ++ t) (ts ++ us) := by
  refine ⟨hs.scans.followed ht, ?_⟩
  intro rest hrest
  rw [List.append_assoc]
  exact hs.apart _ (ht.apart rest hrest)

theorem follows_flatMap {α : Type} {text : α → List Char} {tokens : α → List Token} {as : List α}
    (h : ∀ a ∈ as, Follows (text a) (tokens a)) : Follows (as.flatMap text) (as.flatMap tokens) := by
  induction as with
  | nil => exact follows_nil
  | cons a as ih =>
    rw [List.flatMap_cons, List.flatMap_cons]
    exact (h a List.mem_cons_self).append (ih fun b hb => h b (List.mem_cons_of_mem _ hb))

/-! ## Lists -/

section Lists

variable {α β : Type}

/-- The tokens of a list with commas between its items. -/
def listTokens (tokens : α → List Token) : List α → List Token
  | [] => []
  | a :: as => tokens a ++ as.flatMap fun b => .comma :: tokens b

theorem listTokens_map (tokens : β → List Token) (f : α → β) (as : List α) :
    listTokens tokens (as.map f) = listTokens (fun a => tokens (f a)) as := by
  cases as with
  | nil => rfl
  | cons a as => simp [listTokens, List.flatMap_map]

theorem scans_list {r : α → Fragment} {tokens : α → List Token} {as : List α}
    (h : ∀ a ∈ as, Scans (r a).sql.toList (tokens a)) :
    Scans (Fragment.commaSeparated (as.map r)).sql.toList (listTokens tokens as) := by
  cases as with
  | nil => exact scans_nil
  | cons a as =>
    have first := h a List.mem_cons_self
    have others := follows_flatMap fun b hb => (h b (List.mem_cons_of_mem _ hb)).after_comma
    rw [List.map_cons, Fragment.sql_commaSeparated_cons, List.flatMap_map]
    exact first.followed others

end Lists

/-! ## Runs of characters -/

section Runs

variable {p : Char → Bool} {run rest : List Char}

theorem takeWhile_run (hrun : ∀ c ∈ run, p c = true) (hrest : ∀ c ∈ rest.head?, p c = false) :
    (run ++ rest).takeWhile p = run := by
  rw [List.takeWhile_append_of_pos hrun]
  cases rest with
  | nil => simp
  | cons c rest => simp [hrest c rfl]

theorem dropWhile_run (hrun : ∀ c ∈ run, p c = true) (hrest : ∀ c ∈ rest.head?, p c = false) :
    (run ++ rest).dropWhile p = rest := by
  rw [List.dropWhile_append_of_pos hrun]
  cases rest with
  | nil => rfl
  | cons c rest => simp [hrest c rfl]

/-- What follows a run shows where the run ends. -/
theorem run_unique {run' rest' : List Char} (hrun : ∀ c ∈ run, p c = true)
    (hrun' : ∀ c ∈ run', p c = true) (hrest : ∀ c ∈ rest.head?, p c = false)
    (hrest' : ∀ c ∈ rest'.head?, p c = false) (h : run ++ rest = run' ++ rest') :
    run = run' ∧ rest = rest' := by
  have runs : run = run' := by
    rw [← takeWhile_run hrun hrest, h, takeWhile_run hrun' hrest']
  subst runs
  exact ⟨rfl, List.append_cancel_left h⟩

end Runs

/-! ## Names -/

theorem isNameChar_of_isWordChar {c : Char} (h : isWordChar c = true) : isNameChar c = true := by
  simp [isNameChar, h]

theorem dot_notMem_of_plain {s : String} (h : Plain s) : '.' ∉ s.toList := by
  intro hc
  have dot := h.2 '.' hc
  revert dot
  decide

theorem columnOf?_text {c : Column} (h : ∀ s ∈ c.names, Plain s) :
    columnOf? c.text.toList = some c := by
  obtain ⟨table, name⟩ := c
  cases table with
  | none =>
    have plain : Plain name := h name (by simp [Column.names])
    simp [columnOf?, Column.text, Column.splitAtDot?_eq_none (dot_notMem_of_plain plain), plain,
      Column.unqualified]
  | some table =>
    have plainTable : Plain table := h table (by simp [Column.names])
    have plainName : Plain name := h name (by simp [Column.names])
    have split := Column.splitAtDot?_append (dot_notMem_of_plain plainTable) name.toList
    simp [columnOf?, Column.text, split, plainTable, plainName, Column.qualified]

theorem isNameChar_of_mem_text {c : Column} (h : ∀ s ∈ c.names, Plain s) {x : Char}
    (hx : x ∈ c.text.toList) : isNameChar x = true := by
  obtain ⟨table, name⟩ := c
  cases table with
  | none => exact isNameChar_of_isWordChar ((h name (by simp [Column.names])).2 x hx)
  | some table =>
    simp only [Column.text, String.toList_append, List.mem_append] at hx
    rcases hx with (hx | hx) | hx
    · exact isNameChar_of_isWordChar ((h table (by simp [Column.names])).2 x hx)
    · rw [List.mem_singleton.1 hx]
      decide
    · exact isNameChar_of_isWordChar ((h name (by simp [Column.names])).2 x hx)

theorem text_eq_cons {c : Column} (h : ∀ s ∈ c.names, Plain s) :
    ∃ x xs, c.text.toList = x :: xs ∧ isWordChar x = true := by
  obtain ⟨table, name⟩ := c
  cases table with
  | none => exact (h name (by simp [Column.names])).exists_cons
  | some table =>
    obtain ⟨x, xs, hxs, hx⟩ := (h table (by simp [Column.names])).exists_cons
    exact ⟨x, xs ++ '.' :: name.toList, by simp [Column.text, hxs], hx⟩

/-- The scanner takes a name as a whole. -/
theorem scans_column {c : Column} (h : ∀ s ∈ c.names, Plain s) : Scans c.text.toList [.name c] := by
  intro rest hrest
  obtain ⟨x, xs, hxs, hx⟩ := text_eq_cons h
  have hall : ∀ y ∈ xs, isNameChar y = true := fun y hy =>
    isNameChar_of_mem_text h (hxs ▸ List.mem_cons_of_mem _ hy)
  have hcol : columnOf? (x :: xs) = some c := hxs ▸ columnOf?_text h
  have hend : ∀ y ∈ rest.head?, isNameChar y = false := fun y hy => (hrest y hy).1
  rw [hxs, List.cons_append, tokens?]
  · rw [takeWhile_run hall hend, dropWhile_run hall hend, hcol]
    cases tokens? rest with
    | none => rfl
    | some ts => rfl
  -- no character of a word starts another kind of token
  all_goals
    intros
    subst_vars
    revert hx
    decide

theorem scans_word {w : String} (h : Plain w) : Scans w.toList [.word w] := by
  have names : ∀ s ∈ (Column.unqualified w).names, Plain s := by
    intro s hs
    rw [List.mem_singleton.1 hs]
    exact h
  exact scans_column names

end QueryBuilder.Sql
