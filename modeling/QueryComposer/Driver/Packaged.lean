import QueryComposer.Driver.Registry

namespace QueryComposer.Driver

/-!
# The packaged drivers

The drivers that are known without a registry document of one's own.
-/

/-- The driver of MySQL databases. -/
def mysql : Driver where
  name := "mysql"
  module := "pymysql"
  quoteMark := .backtick
  paramStyle := .format
  beginStatement := "START TRANSACTION"
  autocommit := .method
  dsnKeyword := none
  defaults := [("host", .text "localhost"), ("port", .int 3306), ("user", .text "root")]
  keywords := [
    ("host", "host"),
    ("port", "port"),
    ("user", "user"),
    ("password", "password"),
    ("dbname", "database"),
    ("charset", "charset")]

/-- The driver of PostgreSQL databases. -/
def pgsql : Driver where
  name := "pgsql"
  module := "psycopg2"
  quoteMark := .double
  paramStyle := .format
  beginStatement := "BEGIN"
  autocommit := .attribute
  dsnKeyword := some "dsn"
  defaults := [
    ("host", .text "localhost"),
    ("port", .int 5432),
    ("user", .text "postgres"),
    ("charset", .text "UTF8")]
  keywords := [
    ("host", "host"),
    ("port", "port"),
    ("user", "user"),
    ("password", "password"),
    ("dbname", "dbname"),
    ("charset", "client_encoding")]

/-- The driver of SQLite databases. -/
def sqlite : Driver where
  name := "sqlite"
  module := "sqlite3"
  quoteMark := .double
  paramStyle := .qmark
  beginStatement := "BEGIN"
  autocommit := .isolationLevel
  dsnKeyword := some "database"
  defaults := [("dbname", .text ":memory:"), ("charset", .null)]
  keywords := [("dbname", "database")]

/-- The registry of the packaged drivers. -/
def packaged : Registry where
  drivers := [("mysql", mysql), ("pgsql", pgsql), ("sqlite", sqlite)]
  baseDefaults := [
    ("dsn", .null),
    ("dbname", .null),
    ("host", .null),
    ("port", .null),
    ("user", .null),
    ("password", .null),
    ("charset", .text "utf8mb4")]

end QueryComposer.Driver
