import QueryBuilder.Proofs.Sql.Token

/-!
# Conditions as SQL reads them

`Derives` is the grammar of conditions over tokens and the values of their placeholders:

    condition   ::= condition OR conjunction | conjunction
    conjunction ::= conjunction AND operand | operand
    operand     ::= ( condition ) | column op ? | column op column

Both connectives group to the left and `AND` binds tighter. `AND` and `OR` are no reserved words:
they are connectives after an operand and columns elsewhere.

`readCondition` reads with a stack of what is open to the left. It follows every derivation
(`Derives.read`), so a text has at most one derivation. Main statement: the text of a clause with
plain names derives that clause with its literals, and no other clause
(`denotes_fragment_iff`).
-/

namespace QueryBuilder.Sql
set_option autoImplicit false

/-! ## The grammar -/

inductive Nonterminal where
  | operand | conjunction | condition

/-- The tokens and the values of their placeholders, from left to right, derive a clause. -/
inductive Derives : Nonterminal → List Token → List Value → Clause → Prop where
  | parameter (left : Column) (op : Comparison) (v : Value) :
      Derives .operand [.name left, .comparison op, .mark] [v] (.compare left op (.value v))
  | columns (left : Column) (op : Comparison) (right : Column) :
      Derives .operand [.name left, .comparison op, .name right] []
        (.compare left op (.column right))
  | parentheses {ts : List Token} {vs : List Value} {c : Clause} :
      Derives .condition ts vs c → Derives .operand (.opening :: ts ++ [.closing]) vs c
  | operand {ts : List Token} {vs : List Value} {c : Clause} :
      Derives .operand ts vs c → Derives .conjunction ts vs c
  | and {ts us : List Token} {vs ws : List Value} {l r : Clause} :
      Derives .conjunction ts vs l → Derives .operand us ws r →
      Derives .conjunction (ts ++ .word "AND" :: us) (vs ++ ws) (.and l r)
  | conjunction {ts : List Token} {vs : List Value} {c : Clause} :
      Derives .conjunction ts vs c → Derives .condition ts vs c
  | or {ts us : List Token} {vs ws : List Value} {l r : Clause} :
      Derives .condition ts vs l → Derives .conjunction us ws r →
      Derives .condition (ts ++ .word "OR" :: us) (vs ++ ws) (.or l r)

/-- The fragment, with its whole text and all its parameters, reads as the clause. -/
def Denotes (f : Fragment) (c : Clause) : Prop :=
  ∃ ts, tokens? f.sql.toList = some ts ∧ Derives .condition ts f.params c

/-! ## The reader -/

/-- The left operands that wait for a right one at one depth of parentheses. -/
structure Frame where
  disjunct : Option Clause
  conjunct : Option Clause

/-- A clause below the connective that waits for it, if one does. -/
def joined (connective : Clause → Clause → Clause) : Option Clause → Clause → Clause
  | none, c => c
  | some left, c => connective left c

mutual

/-- Reads on where an operand is due. The stack holds the depths around the present one. -/
def readOperand (outer : List Frame) (here : Frame) :
    List Token → List Value → Option (Clause × List Token × List Value)
  | .opening :: ts, vs => readOperand (here :: outer) ⟨none, none⟩ ts vs
  | .name left :: .comparison op :: .mark :: ts, v :: vs =>
    readNext outer here.disjunct (joined .and here.conjunct (.compare left op (.value v))) ts vs
  | .name left :: .comparison op :: .name right :: ts, vs =>
    readNext outer here.disjunct
      (joined .and here.conjunct (.compare left op (.column right))) ts vs
  | _, _ => none

/-- Reads on after an operand, which `c` includes. Outside of all parentheses the condition ends at
the first token that does not go on with it. -/
def readNext (outer : List Frame) (disjunct : Option Clause) (c : Clause) :
    List Token → List Value → Option (Clause × List Token × List Value)
  | [], vs => if outer.isEmpty then some (joined .or disjunct c, [], vs) else none
  | t :: ts, vs =>
    if t = .word "AND" then readOperand outer ⟨disjunct, some c⟩ ts vs
    else if t = .word "OR" then readOperand outer ⟨some (joined .or disjunct c), none⟩ ts vs
    else
      match outer with
      | [] => some (joined .or disjunct c, t :: ts, vs)
      | frame :: outer =>
        if t = .closing then
          readNext outer frame.disjunct (joined .and frame.conjunct (joined .or disjunct c)) ts vs
        else none

end

/-- Reads a condition and gives the tokens and the values that are left. -/
def readCondition : List Token → List Value → Option (Clause × List Token × List Value) :=
  readOperand [] ⟨none, none⟩

section Next

variable (outer : List Frame) (disjunct : Option Clause) (c : Clause) (ts : List Token)
  (vs : List Value)

theorem readNext_and : readNext outer disjunct c (.word "AND" :: ts) vs =
    readOperand outer ⟨disjunct, some c⟩ ts vs := by
  rw [readNext.eq_def]
  simp

theorem readNext_or : readNext outer disjunct c (.word "OR" :: ts) vs =
    readOperand outer ⟨some (joined .or disjunct c), none⟩ ts vs := by
  rw [readNext.eq_def]
  simp

theorem readNext_closing (frame : Frame) : readNext (frame :: outer) disjunct c (.closing :: ts) vs =
    readNext outer frame.disjunct (joined .and frame.conjunct (joined .or disjunct c)) ts vs := by
  rw [readNext.eq_def]
  simp [Token.word]

end Next

/-- The reader has taken in what was derived, in any surroundings and before any rest. What a
condition ends in stays open, since a further conjunct may follow it. -/
def Taken : Nonterminal → List Token → List Value → Clause → Prop
  | .operand, ts, vs, c => ∀ outer here rest ws,
    readOperand outer here (ts ++ rest) (vs ++ ws) =
      readNext outer here.disjunct (joined .and here.conjunct c) rest ws
  | .conjunction, ts, vs, c => ∀ outer disjunct rest ws,
    readOperand outer ⟨disjunct, none⟩ (ts ++ rest) (vs ++ ws) = readNext outer disjunct c rest ws
  | .condition, ts, vs, c => ∃ disjunct last, joined .or disjunct last = c ∧
    ∀ outer rest ws,
      readOperand outer ⟨none, none⟩ (ts ++ rest) (vs ++ ws) = readNext outer disjunct last rest ws

/-- The reader follows every derivation. -/
theorem Derives.taken {n : Nonterminal} {ts : List Token} {vs : List Value} {c : Clause}
    (h : Derives n ts vs c) : Taken n ts vs c := by
  induction h with
  | parameter left op v =>
    intro outer here rest ws
    simp only [List.cons_append, List.nil_append, readOperand]
  | columns left op right =>
    intro outer here rest ws
    simp only [List.cons_append, List.nil_append, readOperand]
  | @parentheses ts vs c _ ih =>
    intro outer here rest ws
    obtain ⟨disjunct, last, whole, inside⟩ := ih
    rw [List.append_assoc, List.cons_append, List.singleton_append, readOperand, inside,
      readNext_closing, whole]
  | operand _ ih =>
    intro outer disjunct rest ws
    exact ih outer ⟨disjunct, none⟩ rest ws
  | @and ts us vs ws l r _ _ ihLeft ihRight =>
    intro outer disjunct rest xs
    rw [List.append_assoc, List.append_assoc, List.cons_append, ihLeft, readNext_and]
    exact ihRight outer ⟨disjunct, some l⟩ rest xs
  | @conjunction ts vs c _ ih => exact ⟨none, c, rfl, fun outer rest ws => ih outer none rest ws⟩
  | @or ts us vs ws l r _ _ ihLeft ihRight =>
    obtain ⟨disjunct, last, whole, left⟩ := ihLeft
    refine ⟨some l, r, rfl, fun outer rest xs => ?_⟩
    rw [List.append_assoc, List.append_assoc, List.cons_append, left, readNext_or, whole]
    exact ihRight outer (some l) rest xs

/-- Tokens at which a condition ends. -/
def EndsCondition (rest : List Token) : Prop := ∀ t ∈ rest.head?, t ≠ .word "AND" ∧ t ≠ .word "OR"

theorem Derives.read {ts rest : List Token} {vs : List Value} {c : Clause}
    (h : Derives .condition ts vs c) (hrest : EndsCondition rest) (ws : List Value) :
    readCondition (ts ++ rest) (vs ++ ws) = some (c, rest, ws) := by
  obtain ⟨disjunct, last, whole, taken⟩ := h.taken
  rw [readCondition, taken, ← whole]
  cases rest with
  | nil => rfl
  | cons t rest =>
    obtain ⟨noAnd, noOr⟩ := hrest t rfl
    rw [readNext, if_neg noAnd, if_neg noOr]

/-- **The grammar is unambiguous.** -/
theorem Derives.unique {ts : List Token} {vs : List Value} {c d : Clause}
    (hc : Derives .condition ts vs c) (hd : Derives .condition ts vs d) : c = d := by
  have ends : EndsCondition [] := by
    intro t ht
    cases ht
  have readC := hc.read ends []
  have readD := hd.read ends []
  rw [readC] at readD
  exact congrArg Prod.fst (Option.some.inj readD)

/-! ## Clauses -/

/-- The tokens of a clause as an operand of a connective. -/
def grouped (c : Clause) (ts : List Token) : List Token :=
  if c.isComposite then .opening :: ts ++ [.closing] else ts

/-- The tokens of a clause. -/
def clauseTokens : Clause → List Token
  | .compare left op (.value _) => [.name left, .comparison op, .mark]
  | .compare left op (.column right) => [.name left, .comparison op, .name right]
  | .and left right =>
    grouped left (clauseTokens left) ++ .word "AND" :: grouped right (clauseTokens right)
  | .or left right =>
    grouped left (clauseTokens left) ++ .word "OR" :: grouped right (clauseTokens right)

theorem derives_grouped {c : Clause} (composite : c.isComposite = true)
    (h : Derives .condition (clauseTokens c) c.fragment.params c) :
    Derives .operand (grouped c (clauseTokens c)) c.fragment.params c := by
  rw [grouped, if_pos composite]
  exact .parentheses h

/-- A clause is derived both on its own and as an operand. -/
theorem derives_clause (c : Clause) :
    Derives .condition (clauseTokens c) c.fragment.params c ∧
      Derives .operand (grouped c (clauseTokens c)) c.fragment.params c := by
  induction c with
  | compare left op right =>
    have operand : Derives .operand (clauseTokens (.compare left op right))
        (Clause.compare left op right).fragment.params (.compare left op right) := by
      cases right with
      | value v =>
        simpa [clauseTokens, Clause.fragment, Operand.fragment, Column.params_fragment] using
          Derives.parameter left op v
      | column right =>
        simpa [clauseTokens, Clause.fragment, Operand.fragment, Column.params_fragment] using
          Derives.columns left op right
    exact ⟨.conjunction (.operand operand), operand⟩
  | and left right ihLeft ihRight =>
    have params : (Clause.and left right).fragment.params =
        left.fragment.params ++ right.fragment.params := by
      simp [Clause.fragment_and, Clause.params_operandFragment]
    have whole : Derives .condition (clauseTokens (.and left right))
        (Clause.and left right).fragment.params (.and left right) := by
      rw [params]
      exact .conjunction (.and (.operand ihLeft.2) ihRight.2)
    exact ⟨whole, derives_grouped rfl whole⟩
  | or left right ihLeft ihRight =>
    have params : (Clause.or left right).fragment.params =
        left.fragment.params ++ right.fragment.params := by
      simp [Clause.fragment_or, Clause.params_operandFragment]
    have whole : Derives .condition (clauseTokens (.or left right))
        (Clause.or left right).fragment.params (.or left right) := by
      rw [params]
      exact .or (.conjunction (.operand ihLeft.2)) (.operand ihRight.2)
    exact ⟨whole, derives_grouped rfl whole⟩

theorem scans_operandFragment {c : Clause} {ts : List Token}
    (h : Scans c.fragment.sql.toList ts) : Scans c.operandFragment.sql.toList (grouped c ts) := by
  unfold Clause.operandFragment grouped
  cases c.isComposite with
  | true => simpa using h.enclosed
  | false => simpa using h

theorem scans_operand {right : Operand} (h : ∀ s ∈ right.names, Plain s) (left : Column)
    (op : Comparison) : ∃ t, Scans right.fragment.sql.toList [t] ∧
      clauseTokens (.compare left op right) = [.name left, .comparison op, t] := by
  cases right with
  | value v =>
    refine ⟨.mark, ?_, rfl⟩
    simpa [Operand.fragment] using scans_mark
  | column right =>
    refine ⟨.name right, ?_, rfl⟩
    rw [Operand.fragment, Column.sql_fragment]
    exact scans_column h

theorem scans_clause {c : Clause} (h : ∀ s ∈ c.names, Plain s) :
    Scans c.fragment.sql.toList (clauseTokens c) := by
  induction c with
  | compare left op right =>
    have hleft := scans_column fun s hs => h s (List.mem_append_left _ hs)
    obtain ⟨t, hright, tokens⟩ := scans_operand (fun s hs => h s (List.mem_append_right _ hs)) left op
    have whole := hleft.spaced ((scans_symbol op).spaced hright)
    rw [tokens]
    simpa [Clause.fragment, Column.sql_fragment] using whole
  | and left right ihLeft ihRight =>
    have hleft := scans_operandFragment (ihLeft fun s hs => h s (List.mem_append_left _ hs))
    have hright := scans_operandFragment (ihRight fun s hs => h s (List.mem_append_right _ hs))
    have whole := hleft.spaced ((scans_word (w := "AND") (by decide)).spaced hright)
    rw [clauseTokens, Clause.fragment_and]
    simpa using whole
  | or left right ihLeft ihRight =>
    have hleft := scans_operandFragment (ihLeft fun s hs => h s (List.mem_append_left _ hs))
    have hright := scans_operandFragment (ihRight fun s hs => h s (List.mem_append_right _ hs))
    have whole := hleft.spaced ((scans_word (w := "OR") (by decide)).spaced hright)
    rw [clauseTokens, Clause.fragment_or]
    simpa using whole

/-- **A clause reads back.** Its text and its parameters, read as a condition, give the same tree of
connectives over the same comparisons with the same literals, and nothing else. -/
theorem denotes_fragment_iff {c : Clause} (h : ∀ s ∈ c.names, Plain s) (d : Clause) :
    Denotes c.fragment d ↔ d = c := by
  have tokens := (scans_clause h).tokens?
  have derived := (derives_clause c).1
  constructor
  · rintro ⟨ts, hts, hd⟩
    rw [tokens] at hts
    rw [← Option.some.inj hts] at hd
    exact hd.unique derived
  · rintro rfl
    exact ⟨clauseTokens d, tokens, derived⟩

/-- A condition on columns that are called like connectives: both operands of `AND` are composite
and its right one is an `AND` itself. -/
def keywordClause : Clause :=
  .and (.or (.compare (.qualified "AND" "OR") .lt (.column (.unqualified "AND")))
      (.eq (.unqualified "OR") (.int64 1)))
    (.and (.compare (.unqualified "a") .le (.value .null)) (.eq (.unqualified "_id") (.string "? OR (")))

/-- The conjunction of `keywordClause`, grouped to the left instead. -/
def keywordClauseRegrouped : Clause :=
  .and (.and (.or (.compare (.qualified "AND" "OR") .lt (.column (.unqualified "AND")))
      (.eq (.unqualified "OR") (.int64 1))) (.compare (.unqualified "a") .le (.value .null)))
    (.eq (.unqualified "_id") (.string "? OR ("))

theorem keywordClause_denotes_only_itself :
    (∀ s ∈ keywordClause.names, Plain s) ∧ Denotes keywordClause.fragment keywordClause ∧
      ¬ Denotes keywordClause.fragment keywordClauseRegrouped := by
  have plain : ∀ s ∈ keywordClause.names, Plain s := by decide
  refine ⟨plain, (denotes_fragment_iff plain _).2 rfl, fun h => ?_⟩
  have same := (denotes_fragment_iff plain _).1 h
  revert same
  decide

end QueryBuilder.Sql
