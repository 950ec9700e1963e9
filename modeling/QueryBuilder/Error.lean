import QueryBuilder.Config.Load

/-!
# Errors

Every way in which an operation of the library fails, and its message.
-/

namespace QueryBuilder
set_option autoImplicit false

/-- Operations on rows that a condition selects or that change some columns only. There is no
statement for them. -/
inductive UnsupportedOperation where
  | updateColumns
  | updateWhere
  | deleteMatching
  | deleteWhere
  deriving DecidableEq

/-- The name of the operation. -/
def UnsupportedOperation.name : UnsupportedOperation → String
  | updateColumns => "UpdateQuery::update"
  | updateWhere => "UpdateQuery::where_"
  | deleteMatching => "DeleteQuery::delete"
  | deleteWhere => "DeleteQuery::where_"

/-- Statements that find their row by its primary key. -/
inductive KeyedStatement where
  | update | delete
  deriving DecidableEq

/-- The first word of the statement. -/
def KeyedStatement.keyword : KeyedStatement → String
  | update => "UPDATE"
  | delete => "DELETE"

/-- Why a query has no statement. -/
inductive CompileError where
  | nothingToInsert (table : String)
  | nothingToUpdate (table : String)
  /-- The row has no value other than `NULL` for its primary key. -/
  | noKey (statement : KeyedStatement) (table key : String)
  deriving DecidableEq

/-- What is wrong with the query. -/
def CompileError.text : CompileError → String
  | nothingToInsert table => "nothing to insert into " ++ table
  | nothingToUpdate table => "nothing to update in " ++ table
  | noKey statement table key =>
    statement.keyword ++ " on " ++ table ++ " requires a value for primary key " ++ key

/-- A failure of the database. -/
inductive DriverError where
  | reported (message : String)
  /-- A count query was not answered by a number of rows. -/
  | noCount (table : String)
  deriving DecidableEq

/-- What the database, or the reader of its answer, says. -/
def DriverError.text : DriverError → String
  | reported message => message
  | noCount table => "COUNT on " ++ table ++ " did not return a row count"

/-- Why an operation failed. -/
inductive Error where
  | noRelation (left right : String)
  | unsupported (operation : UnsupportedOperation)
  | compilation (cause : CompileError)
  | unknownDriver (name : String)
  | unknownModel (name : String)
  | driver (cause : DriverError)
  | config (cause : ConfigError)

/-- The message of an error. A configuration that is no document has none. -/
def Error.message? : Error → Option String
  | noRelation left right => some ("no relation found between " ++ left ++ " and " ++ right)
  | unsupported operation => some (operation.name ++ " is not supported yet")
  | compilation cause => some ("compilation failed: " ++ cause.text)
  | unknownDriver name => some ("unknown driver: " ++ name)
  | unknownModel name => some ("unknown model: " ++ name)
  | driver cause => some ("driver error: " ++ cause.text)
  | config cause => cause.message?

end QueryBuilder
