import QueryBuilder.Proofs.Name

/-!
# Words

`words` splits a text at blanks, commas and closing parentheses. Unlike tokens, every text has words:
what stands in quotes counts as blank, whatever it is, and any other character belongs to a word. So
the words of a statement can be told that takes over an expression which is not known.

`Spells s ws` says that a text has these words and leaves no literal open, so that they stay its words
whatever follows after a break (`Spells.append_cons`, `Spells.append`).
-/

namespace QueryBuilder.Sql
set_option autoImplicit false

/-- Where a character of a statement stands. -/
inductive Region where
  | code
  /-- In a literal, or in a name in quotes. -/
  | quoted (quote : Char)
  /-- Behind a backslash in a literal. -/
  | escaped (quote : Char)
  deriving DecidableEq

/-- The double quote, the single quote and the back quote. -/
def isQuote (c : Char) : Bool := c == '"' || c == '\x27' || c == '\x60'

/-- A doubled quote in a literal ends it and starts it again. Between back quotes a backslash is a
character like any other. -/
def Region.next : Region → Char → Region
  | code, c => if isQuote c then quoted c else code
  | quoted q, c =>
    if c = q then code else if c = '\\' ∧ q ≠ '\x60' then escaped q else quoted q
  | escaped q, _ => quoted q

/-- The text with a blank in place of each character of a literal. -/
def withoutLiterals (r : Region) : List Char → List Char
  | [] => []
  | c :: cs => (if r = .code ∧ r.next c = .code then c else ' ') :: withoutLiterals (r.next c) cs

/-- The characters that end a word. An opening parenthesis does not, so a list of columns starts with
one. -/
def isBreak (c : Char) : Bool := c.isWhitespace || c == ',' || c == ')'

/-- The characters of words. -/
def isInner (c : Char) : Bool := !isBreak c && !isQuote c

/-- The words of a text, without what its literals say. -/
def words (cs : List Char) : List String :=
  (((withoutLiterals .code cs).splitOnP isBreak).filter (!·.isEmpty)).map String.ofList

/-! ## Texts one after another -/

/-- Every literal of the text ends in it. -/
def Closed (s : List Char) : Prop := s.foldl Region.next .code = .code

instance (s : List Char) : Decidable (Closed s) := inferInstanceAs (Decidable (_ = _))

theorem withoutLiterals_append (r : Region) (s t : List Char) : withoutLiterals r (s ++ t) =
    withoutLiterals r s ++ withoutLiterals (s.foldl Region.next r) t := by
  induction s generalizing r with
  | nil => rfl
  | cons c s ih =>
    rw [List.cons_append, withoutLiterals, withoutLiterals, ih]
    rfl

theorem isQuote_of_isBreak {c : Char} (h : isBreak c = true) : isQuote c = false := by
  simp only [isBreak, Char.isWhitespace, Bool.or_eq_true, beq_iff_eq, decide_eq_true_eq] at h
  rcases h with (((((rfl | rfl) | rfl) | rfl) | rfl) | rfl) <;> decide

theorem words_append_cons {s : List Char} (hs : Closed s) {c : Char} (hc : isBreak c = true)
    (t : List Char) : words (s ++ c :: t) = words s ++ words t := by
  have stays : Region.code.next c = .code := by simp [Region.next, isQuote_of_isBreak hc]
  rw [words, withoutLiterals_append, hs, withoutLiterals, stays, if_pos ⟨rfl, rfl⟩,
    List.splitOnP_append_cons _ _ hc, List.filter_append, List.map_append]
  rfl

/-- A text that goes on after a whole word. -/
def Apart (s : List Char) : Prop := ∀ c ∈ s.head?, isBreak c = true

instance (s : List Char) : Decidable (Apart s) :=
  decidable_of_iff (s.head?.all isBreak = true) (by simp [Apart, Option.all_eq_true])

theorem apart_cons {c : Char} (h : isBreak c = true) (s : List Char) : Apart (c :: s) := by
  intro d hd
  cases hd
  exact h

/-- A whole text with its words. -/
structure Spells (s : List Char) (ws : List String) : Prop where
  closed : Closed s
  words : words s = ws

section Spells

variable {s t : List Char} {ws vs : List String}

theorem spells_nil : Spells [] [] := ⟨rfl, rfl⟩

theorem Spells.append_cons (hs : Spells s ws) {c : Char} (hc : isBreak c = true)
    (ht : Spells t vs) : Spells (s ++ c :: t) (ws ++ vs) := by
  have stays : Region.code.next c = .code := by simp [Region.next, isQuote_of_isBreak hc]
  refine ⟨?_, ?_⟩
  · rw [Closed, List.foldl_append, hs.closed, List.foldl_cons, stays]
    exact ht.closed
  · rw [words_append_cons hs.closed hc, hs.words, ht.words]

theorem Spells.spaced (hs : Spells s ws) (ht : Spells t vs) : Spells (s ++ ' ' :: t) (ws ++ vs) :=
  hs.append_cons (by decide) ht

theorem Spells.cons {c : Char} (hc : isBreak c = true) (ht : Spells t vs) : Spells (c :: t) vs :=
  spells_nil.append_cons hc ht

theorem Spells.append (hs : Spells s ws) (ht : Spells t vs) (apart : Apart t) :
    Spells (s ++ t) (ws ++ vs) := by
  cases t with
  | nil =>
    have none : vs = [] := ht.words.symm
    rw [none, List.append_nil, List.append_nil]
    exact hs
  | cons c t =>
    have hc : isBreak c = true := apart c rfl
    have start : Sql.words (c :: t) = Sql.words t := words_append_cons (s := []) rfl hc t
    have closed : Closed t := by
      have whole := ht.closed
      rwa [Closed, List.foldl_cons, Region.next, isQuote_of_isBreak hc] at whole
    exact hs.append_cons hc ⟨closed, start ▸ ht.words⟩

theorem Apart.append (hs : Apart s) (ht : Apart t) : Apart (s ++ t) := by
  cases s with
  | nil => exact ht
  | cons c s => exact hs

theorem apart_flatMap {α : Type} {text : α → List Char} {as : List α} (h : ∀ a, Apart (text a)) :
    Apart (as.flatMap text) := by
  induction as with
  | nil => exact fun _ hc => nomatch hc
  | cons a as ih =>
    rw [List.flatMap_cons]
    exact (h a).append ih

theorem spells_flatMap {α : Type} {text : α → List Char} {spelled : α → List String} {as : List α}
    (h : ∀ a ∈ as, Spells (text a) (spelled a)) (apart : ∀ a, Apart (text a)) :
    Spells (as.flatMap text) (as.flatMap spelled) := by
  induction as with
  | nil => exact spells_nil
  | cons a as ih =>
    rw [List.flatMap_cons, List.flatMap_cons]
    exact (h a List.mem_cons_self).append (ih fun b hb => h b (List.mem_cons_of_mem a hb))
      (apart_flatMap apart)

theorem withoutLiterals_of_not_isQuote (h : ∀ c ∈ s, isQuote c = false) :
    withoutLiterals .code s = s ∧ Closed s := by
  induction s with
  | nil => exact ⟨rfl, rfl⟩
  | cons c s ih =>
    have stays : Region.code.next c = .code := by simp [Region.next, h c List.mem_cons_self]
    obtain ⟨same, closed⟩ := ih fun d hd => h d (List.mem_cons_of_mem c hd)
    refine ⟨?_, ?_⟩
    · rw [withoutLiterals, stays, if_pos ⟨rfl, rfl⟩, same]
    · rw [Closed, List.foldl_cons, stays]
      exact closed

/-- A text without breaks and quotes is one word. -/
theorem spells_word {w : String} (nonempty : w ≠ "") (h : w.toList.all isInner = true) :
    Spells w.toList [w] := by
  have inner : ∀ c ∈ w.toList, isBreak c = false ∧ isQuote c = false := by
    simpa [isInner] using h
  obtain ⟨same, closed⟩ := withoutLiterals_of_not_isQuote fun c hc => (inner c hc).2
  refine ⟨closed, ?_⟩
  rw [words, same, List.splitOnP_eq_singleton fun c hc => (inner c hc).1]
  simp [nonempty]

theorem isInner_of_isWordChar {c : Char} (h : isWordChar c = true) : isInner c = true := by
  cases inner : isInner c with
  | true => rfl
  | false =>
    exfalso
    simp only [isInner, isBreak, isQuote, Char.isWhitespace, Bool.and_eq_false_iff,
      Bool.not_eq_false', Bool.or_eq_true, beq_iff_eq, decide_eq_true_eq] at inner
    revert h
    rcases inner with (((((rfl | rfl) | rfl) | rfl) | rfl) | rfl) | ((rfl | rfl) | rfl) <;> decide

theorem all_isInner_of_plain {w : String} (h : Plain w) : w.toList.all isInner = true :=
  List.all_eq_true.2 fun c hc => isInner_of_isWordChar (h.2 c hc)

theorem spells_plain {w : String} (h : Plain w) : Spells w.toList [w] :=
  spells_word (fun e => h.1 (String.toList_eq_nil_iff.2 e)) (all_isInner_of_plain h)

/-- A parenthesis does not end a word, so it is one word with the name behind it. -/
theorem spells_append_plain {v w : String} (hv : v.toList.all isInner = true) (hw : Plain w) :
    Spells (v ++ w).toList [v ++ w] := by
  refine spells_word (fun e => hw.1 ?_) ?_
  · rw [(String.append_eq_empty_iff.1 e).2]
    rfl
  · rw [String.toList_append, List.all_append, hv, all_isInner_of_plain hw]
    rfl

theorem spells_opening {w : String} (h : Plain w) : Spells ("(" ++ w).toList ["(" ++ w] :=
  spells_append_plain (by decide) h

end Spells

end QueryBuilder.Sql
