import Mathlib.Data.List.Forall2
import QueryBuilder.Proofs.Join.ForeignKey

/-!
# Lexemes

`lexemes` splits a text at blanks, commas and parentheses, and every other character belongs to a
word. So an expression without these is one word, whatever else it has. `Lexes s ls` says what a piece
of text contributes in front of any rest that does not go on with its last word (`Lexes.append`).

`splitItems` splits a list at the commas that stand outside of all parentheses. What such a comma does
not break stays in one item (`Unbroken`), so the items of a list are read back
(`splitItems_intercalate`).
-/

namespace QueryBuilder.Sql
set_option autoImplicit false

inductive Lexeme where
  | word (w : String)
  | opening
  | closing
  | comma
  deriving DecidableEq

/-- The characters that are no part of a word. -/
def isSeparator (c : Char) : Bool := c == ' ' || c == ',' || c == '(' || c == ')'

/-- The symbol that a separator stands for; a blank stands for none. -/
def symbol : Char → List Lexeme
  | '(' => [.opening]
  | ')' => [.closing]
  | ',' => [.comma]
  | _ => []

/-- The word that these characters make, if there are any. -/
def wordOf (run : List Char) : List Lexeme := if run.isEmpty then [] else [.word (.ofList run)]

/-- The lexemes of a text behind the first characters `run` of a word. -/
def lexemesFrom (run : List Char) : List Char → List Lexeme
  | [] => wordOf run
  | c :: cs =>
    if isSeparator c then wordOf run ++ (symbol c ++ lexemesFrom [] cs)
    else lexemesFrom (run ++ [c]) cs

def lexemes (cs : List Char) : List Lexeme := lexemesFrom [] cs

/-- A text that is one word. -/
def Solid (s : String) : Prop := s.toList ≠ [] ∧ ∀ c ∈ s.toList, isSeparator c = false

instance (s : String) : Decidable (Solid s) :=
  decidable_of_iff ((!s.toList.isEmpty && s.toList.all (!isSeparator ·)) = true) (by simp [Solid])

theorem solid_of_plain {s : String} (h : Plain s) : Solid s := by
  refine ⟨h.1, fun c hc => ?_⟩
  cases separator : isSeparator c with
  | false => rfl
  | true =>
    have word := h.2 c hc
    simp only [isSeparator, Bool.or_eq_true, beq_iff_eq] at separator
    rcases separator with ((rfl | rfl) | rfl) | rfl <;> exact absurd word (by decide)

/-- The text does not go on with the word before it. -/
def SetOff (s : List Char) : Prop := ∀ c ∈ s.head?, isSeparator c = true

theorem setOff_cons {c : Char} (h : isSeparator c = true) (s : List Char) : SetOff (c :: s) := by
  intro d hd
  cases hd
  exact h

theorem SetOff.append {s t : List Char} (hs : SetOff s) (ht : SetOff t) : SetOff (s ++ t) := by
  cases s with
  | nil => exact ht
  | cons c s => exact hs

/-! ## Texts one after another -/

theorem lexemesFrom_append {s : List Char} (h : ∀ c ∈ s, isSeparator c = false) (run t : List Char) :
    lexemesFrom run (s ++ t) = lexemesFrom (run ++ s) t := by
  induction s generalizing run with
  | nil => rw [List.nil_append, List.append_nil]
  | cons c s ih =>
    obtain ⟨inner, others⟩ := List.forall_mem_cons.1 h
    rw [List.cons_append, lexemesFrom, inner, if_neg (by decide), ih others, List.append_assoc]
    rfl

theorem lexemesFrom_of_setOff (run : List Char) {t : List Char} (h : SetOff t) :
    lexemesFrom run t = wordOf run ++ lexemes t := by
  cases t with
  | nil => exact (List.append_nil _).symm
  | cons c t =>
    have separator : isSeparator c = true := h c rfl
    rw [lexemes, lexemesFrom, lexemesFrom, if_pos separator, if_pos separator]
    rfl

/-- The text has these lexemes in front of every rest that does not go on with its last word. -/
def Lexes (s : List Char) (ls : List Lexeme) : Prop :=
  ∀ rest, SetOff rest → lexemes (s ++ rest) = ls ++ lexemes rest

section Lexes

variable {s t : List Char} {ls ks : List Lexeme}

theorem lexes_nil : Lexes [] [] := fun _ _ => rfl

theorem lexes_word {w : String} (h : Solid w) : Lexes w.toList [.word w] := by
  intro rest setOff
  have whole : wordOf w.toList = [.word w] := by simp [wordOf, h.1]
  rw [lexemes, lexemesFrom_append h.2, List.nil_append, lexemesFrom_of_setOff _ setOff, whole]

/-- A separator ends a word, so what follows on it may be anything. -/
theorem Lexes.cons {c : Char} (hc : isSeparator c = true) (ht : Lexes t ks) :
    Lexes (c :: t) (symbol c ++ ks) := by
  intro rest setOff
  rw [List.cons_append, lexemes, lexemesFrom, if_pos hc, List.append_assoc, ← ht rest setOff]
  rfl

theorem Lexes.append (hs : Lexes s ls) (ht : Lexes t ks) (setOff : SetOff t) :
    Lexes (s ++ t) (ls ++ ks) := by
  intro rest hrest
  rw [List.append_assoc, hs _ (setOff.append hrest), ht rest hrest, List.append_assoc]

theorem Lexes.append_cons (hs : Lexes s ls) {c : Char} (hc : isSeparator c = true)
    (ht : Lexes t ks) : Lexes (s ++ c :: t) (ls ++ (symbol c ++ ks)) :=
  hs.append (ht.cons hc) (setOff_cons hc t)

theorem Lexes.lexemes (hs : Lexes s ls) : lexemes s = ls := by
  have whole := hs [] fun _ hc => nomatch hc
  rw [List.append_nil] at whole
  rw [whole]
  exact List.append_nil ls

theorem lexes_listText {texts : List String} {spelled : List (List Lexeme)}
    (h : List.Forall₂ (fun s ls => Lexes s.toList ls) texts spelled) :
    Lexes (listText texts).toList ([Lexeme.comma].intercalate spelled) := by
  induction h with
  | nil => exact lexes_nil
  | @cons s ls texts spelled first others ih =>
    cases others with
    | nil => simpa [listText] using first
    | @cons t ks texts spelled second others =>
      have rest : listText (s :: t :: texts) = s ++ ", " ++ listText (t :: texts) :=
        String.intercalate_cons_cons
      have whole := first.append_cons (c := ',') (by decide) (ih.cons (c := ' ') (by decide))
      rw [rest, List.intercalate_cons_cons]
      simpa [symbol] using whole

theorem forall₂_lexes {α : Type} {text : α → String} {spelled : α → List Lexeme} {as : List α}
    (h : ∀ a ∈ as, Lexes (text a).toList (spelled a)) :
    List.Forall₂ (fun s ls => Lexes s.toList ls) (as.map text) (as.map spelled) :=
  List.forall₂_map_left_iff.2 (List.forall₂_map_right_iff.2 (List.forall₂_same.2 h))

/-- A text that may stand behind a word, with its lexemes. -/
structure Behind (s : List Char) (ls : List Lexeme) : Prop where
  setOff : SetOff s
  lexes : Lexes s ls

theorem behind_nil : Behind [] [] := ⟨nofun, lexes_nil⟩

theorem Behind.append (hs : Behind s ls) (ht : Behind t ks) : Behind (s ++ t) (ls ++ ks) :=
  ⟨hs.setOff.append ht.setOff, hs.lexes.append ht.lexes ht.setOff⟩

theorem behind_if (b : Bool) {s : String} (h : Behind s.toList ls) :
    Behind (if b then s else "").toList (if b then ls else []) := by
  cases b with
  | true => exact h
  | false => exact behind_nil

/-- Words with a blank before each of them. -/
theorem behind_words (ws : List String) (h : ∀ w ∈ ws, Solid w) :
    Behind (ws.flatMap fun w => ' ' :: w.toList) (ws.map .word) := by
  induction ws with
  | nil => exact behind_nil
  | cons w ws ih =>
    obtain ⟨solid, others⟩ := List.forall_mem_cons.1 h
    have first : Behind (' ' :: w.toList) [.word w] :=
      ⟨setOff_cons (by decide) _, (lexes_word solid).cons (by decide)⟩
    exact first.append (ih others)

/-- A list in parentheses, and what follows on it. -/
theorem behind_list (hs : Lexes s ls) (ht : Lexes t ks) :
    Behind (' ' :: '(' :: (s ++ ')' :: t)) (.opening :: (ls ++ .closing :: ks)) :=
  have opened : Lexes ('(' :: (s ++ ')' :: t)) (.opening :: (ls ++ .closing :: ks)) :=
    (hs.append_cons (by decide) ht).cons (by decide)
  ⟨setOff_cons (by decide) _, opened.cons (by decide)⟩

end Lexes

/-! ## Items of a list -/

/-- How many parentheses are open after a lexeme. -/
def Lexeme.depthAfter (depth : Nat) : Lexeme → Nat
  | opening => depth + 1
  | closing => depth - 1
  | word _ | comma => depth

/-- The items of a list whose first item starts with `item`, with so many parentheses open. -/
def splitItems (depth : Nat) (item : List Lexeme) : List Lexeme → List (List Lexeme)
  | [] => if item = [] then [] else [item]
  | l :: ls =>
    if l = .comma ∧ depth = 0 then item :: splitItems 0 [] ls
    else splitItems (l.depthAfter depth) (item ++ [l]) ls

/-- The lexemes stay in the item that they are found in. -/
def Unbroken (ls : List Lexeme) : Prop :=
  ∀ item rest, splitItems 0 item (ls ++ rest) = splitItems 0 (item ++ ls) rest

section Items

variable {ls ks : List Lexeme}

theorem unbroken_nil : Unbroken [] := fun item rest => by rw [List.nil_append, List.append_nil]

theorem Unbroken.append (hs : Unbroken ls) (ht : Unbroken ks) : Unbroken (ls ++ ks) := by
  intro item rest
  rw [List.append_assoc, hs, ht, List.append_assoc]

theorem Unbroken.cons (w : String) (h : Unbroken ls) : Unbroken (.word w :: ls) := by
  intro item rest
  have stays : splitItems 0 item (.word w :: (ls ++ rest)) =
      splitItems 0 (item ++ [.word w]) (ls ++ rest) := rfl
  rw [List.cons_append, stays, h, List.append_assoc]
  rfl

theorem unbroken_if (b : Bool) (h : Unbroken ls) : Unbroken (if b then ls else []) := by
  cases b with
  | true => exact h
  | false => exact unbroken_nil

theorem splitItems_intercalate {items : List (List Lexeme)}
    (h : ∀ ls ∈ items, ls ≠ [] ∧ Unbroken ls) :
    splitItems 0 [] ([Lexeme.comma].intercalate items) = items := by
  induction items with
  | nil => rfl
  | cons ls items ih =>
    obtain ⟨⟨nonempty, unbroken⟩, others⟩ := List.forall_mem_cons.1 h
    cases items with
    | nil =>
      have last := unbroken [] []
      rw [List.append_nil, List.nil_append] at last
      simp [last, splitItems, nonempty]
    | cons ks items =>
      rw [List.intercalate_cons_cons, List.append_assoc, unbroken, List.nil_append,
        List.singleton_append, splitItems, if_pos ⟨rfl, rfl⟩, ih others]

end Items

end QueryBuilder.Sql
