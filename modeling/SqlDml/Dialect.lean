import SqlDml.Fault

/-!
# The dialect: its word lists and spelling variants

* `commands`, `operators`, `types`, `conjunctions`, `functions`, `reserved` : the word lists, each
  in its published order;
* `isSymbol` : a word on any of the lists, hence never a bare name;
* `synonyms`, `canonicalize` : spelling variants and the one spelling kept for each.

Every lookup is by exact spelling; callers lower the case of a word before they ask.
-/

namespace SqlDml.Dialect

/-! ## Word lists -/

/-- Words that can lead a statement. -/
def commands : List String :=
  ["alter", "create", "drop", "select", "delete", "insert", "update"]

/-- Comparison and logical operators. -/
def operators : List String :=
  ["=", "!=", "<>", "<", "<=", ">", ">=", "like", "clike", "slike", "not", "is", "in", "between",
   "and", "or"]

/-- Column data types. -/
def types : List String :=
  ["character", "char", "varchar", "nchar", "bit", "numeric", "decimal", "dec", "integer", "int",
   "smallint", "float", "real", "double", "date", "time", "timestamp", "interval", "bool",
   "boolean", "set", "enum", "text"]

/-- Words that introduce a clause or a part of one. -/
def conjunctions : List String :=
  ["by", "as", "on", "into", "from", "where", "with"]

/-- Aggregate and sequence functions. -/
def functions : List String :=
  ["avg", "count", "max", "min", "sum", "nextval", "currval"]

/-- Words set aside by the standard. -/
def reserved : List String :=
  ["absolute", "action", "add", "all", "allocate", "and", "any", "are", "asc", "ascending",
   "assertion", "at", "authorization", "begin", "bit_length", "both", "cascade", "cascaded",
   "case", "cast", "catalog", "char_length", "character_length", "check", "close", "coalesce",
   "collate", "collation", "column", "commit", "connect", "connection", "constraint",
   "constraints", "continue", "convert", "corresponding", "cross", "current", "current_date",
   "current_time", "current_timestamp", "current_user", "cursor", "day", "deallocate", "declare",
   "default", "deferrable", "deferred", "desc", "descending", "describe", "descriptor",
   "diagnostics", "disconnect", "distinct", "domain", "else", "end", "end-exec", "escape",
   "except", "exception", "exec", "execute", "exists", "external", "extract", "false", "fetch",
   "first", "for", "foreign", "found", "full", "get", "global", "go", "goto", "grant", "group",
   "having", "hour", "identity", "immediate", "indicator", "initially", "inner", "input",
   "insensitive", "intersect", "isolation", "join", "key", "language", "last", "leading", "left",
   "level", "limit", "local", "lower", "match", "minute", "module", "month", "names", "national",
   "natural", "next", "no", "null", "nullif", "octet_length", "of", "offset", "only", "open",
   "option", "or", "order", "outer", "output", "overlaps", "pad", "partial", "position",
   "precision", "prepare", "preserve", "primary", "prior", "privileges", "procedure", "public",
   "read", "references", "relative", "restrict", "revoke", "right", "rollback", "rows", "schema",
   "scroll", "second", "section", "session", "session_user", "size", "some", "space", "sql",
   "sqlcode", "sqlerror", "sqlstate", "substring", "system_user", "table", "temporary", "then",
   "timezone_hour", "timezone_minute", "to", "trailing", "transaction", "translate",
   "translation", "trim", "true", "union", "unique", "unknown", "upper", "usage", "user",
   "using", "value", "values", "varying", "view", "when", "whenever", "work", "write", "year",
   "zone", "eoc"]

/-! ## Lookups -/

def isCommand (word : String) : Bool := commands.contains word

def isOperator (word : String) : Bool := operators.contains word

def isType (word : String) : Bool := types.contains word

def isConjunction (word : String) : Bool := conjunctions.contains word

def isFunction (word : String) : Bool := functions.contains word

/-- The words with a meaning in the dialect: those on any of the six lists. -/
def symbols : List String :=
  types ++ functions ++ operators ++ commands ++ reserved ++ conjunctions

def isSymbol (word : String) : Bool := symbols.contains word

/-- No symbol is free for use as a name, so a word is reserved exactly when it is a symbol. -/
def isReserved (word : String) : Bool := isSymbol word

/-! ## Spelling variants -/

/-- A spelling and the canonical spelling that it stands for. -/
def synonyms : List (String × String) :=
  [("decimal", "numeric"), ("dec", "numeric"), ("numeric", "numeric"), ("float", "float"),
   ("real", "real"), ("double", "real"), ("int", "int"), ("integer", "int"),
   ("interval", "interval"), ("smallint", "smallint"), ("timestamp", "timestamp"),
   ("bool", "bool"), ("boolean", "bool"), ("set", "set"), ("enum", "enum"), ("text", "text"),
   ("char", "char"), ("character", "char"), ("varchar", "varchar"), ("ascending", "asc"),
   ("asc", "asc"), ("descending", "desc"), ("desc", "desc"), ("date", "date"), ("time", "time")]

def isSynonym (word : String) : Bool := (synonyms.lookup word).isSome

/-- The canonical spelling of a variant; a word without an entry is a fault of the caller. -/
def canonicalize (word : String) : Except Fault String :=
  match synonyms.lookup word with
  | some canonical => .ok canonical
  | none => .error (.unknownSynonym word)

end SqlDml.Dialect
