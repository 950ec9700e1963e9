import QueryBuilder.KeyedList

/-!
# Environment variables

Variables are handed on as texts `NAME=value` that end at the character 0. So no name is empty or has
an equals sign in it, and neither a name nor a value has the character 0. A program that sets a
variable against these rules panics.
-/

namespace QueryBuilder
set_option autoImplicit false

/-- Variables with their values. -/
abbrev Environment := KeyedList (Prod.fst : String × String → String)

namespace Environment

/-- Whether a variable can have this name. -/
def isName (name : String) : Bool :=
  !name.isEmpty && name.toList.all fun c => c != '=' && c != '\x00'

/-- Whether a variable can have this value. -/
def isValue (value : String) : Bool := value.toList.all (· != '\x00')

/-- The value of a variable. -/
def get? (env : Environment) (name : String) : Option String := (env.find? name).map Prod.snd

/-- Gives a value to a variable that has none; the empty text is a value. The program panics, which is
`none`, if there can be no such variable. -/
def setDefault? (env : Environment) (name value : String) : Option Environment :=
  if (env.get? name).isSome then some env
  else if isName name && isValue value then some (env.insert (name, value))
  else none

variable {env after : Environment} {name value : String}

theorem setDefault?_eq_none_iff : env.setDefault? name value = none ↔
    env.get? name = none ∧ ¬(isName name = true ∧ isValue value = true) := by
  unfold setDefault?
  cases env.get? name with
  | some v => simp
  | none => by_cases possible : isName name = true ∧ isValue value = true <;> simp_all

theorem get?_setDefault? (set : env.setDefault? name value = some after) (other : String) :
    after.get? other = if name = other then some ((env.get? name).getD value) else env.get? other := by
  unfold setDefault? at set
  cases h : env.get? name with
  | some v =>
    rw [if_pos (by rw [h]; rfl)] at set
    cases set
    by_cases same : name = other
    · subst same
      rw [if_pos rfl, h]
      rfl
    · rw [if_neg same]
  | none =>
    rw [if_neg (by rw [h]; simp)] at set
    split at set
    · cases set
      simp only [get?, KeyedList.find?_insert]
      split <;> rfl
    · cases set

end Environment

end QueryBuilder
