/-!
# Configuration

What a program needs to open its database. The driver is `mysql` unless another one is named;
a connection URL from outside takes the place of the configured one unless it is empty.
-/

namespace QueryBuilder
set_option autoImplicit false

/-- How the database is reached. -/
structure DbConfig where
  driver : String
  url : Option String
  database : Option String
  deriving DecidableEq

/-- The configuration that leaves everything open. -/
def DbConfig.standard : DbConfig := ⟨"mysql", none, none⟩

/-- The configuration of a program. -/
structure Config where
  db : DbConfig
  deriving DecidableEq

/-- The configuration that leaves everything open. -/
def Config.standard : Config := ⟨.standard⟩

/-- The configuration with another URL, if one is given that is not empty. -/
def Config.overrideUrl (c : Config) (url : Option String) : Config :=
  match url with
  | some u => if u.isEmpty then c else { c with db := { c.db with url := some u } }
  | none => c

end QueryBuilder
