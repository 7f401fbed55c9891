/-!
# Options of a token reader

* `ReaderConfig` : the options;
* `Datum` : a document of a data format, as options are stored in;
* `ReaderConfig.ofDatum?`, `ReaderConfig.toDatum` : the options that a document states, and the
  document that states given options.

How a document states options is the convention of its format, not a rule of the reader: by name in
a record, where other members count for nothing and the last of several of one name holds, or by
place in a list, and with its default for what is left out. All that is proved of it is that options
read back as they were written; a reader itself takes its options as they are.
-/

namespace SqlDml

/-- A document of a data format. A count is a whole number without sign, point or exponent, and any
other number stays as it is written. -/
inductive Datum where
  | null
  | bool (b : Bool)
  | count (n : Nat)
  | number (written : String)
  | text (s : String)
  | list (items : List Datum)
  | record (members : List (String × Datum))
  deriving Repr, Inhabited

/-- The look-ahead is how many of the latest tokens are kept for stepping back; zero keeps none. -/
structure ReaderConfig where
  lookahead : Nat := 0
  deriving Repr, DecidableEq, Inhabited

namespace ReaderConfig

/-- The largest look-ahead that a document may state. -/
def maxLookahead : Nat := UInt64.size - 1

def ofLookahead? : Datum → Option ReaderConfig
  | .count n => if n ≤ maxLookahead then some { lookahead := n } else none
  | _ => none

def ofDatum? : Datum → Option ReaderConfig
  | .record members =>
    match members.reverse.lookup "lookahead" with
    | some datum => ofLookahead? datum
    | none => some {}
  | .list [] => some {}
  | .list [datum] => ofLookahead? datum
  | _ => none

def toDatum (config : ReaderConfig) : Datum := .record [("lookahead", .count config.lookahead)]

def isDefault (config : ReaderConfig) : Bool := config == {}

theorem ofDatum?_toDatum {config : ReaderConfig} (h : config.lookahead ≤ maxLookahead) :
    ofDatum? config.toDatum = some config := by
  simp [ofDatum?, toDatum, ofLookahead?, h]

end ReaderConfig

end SqlDml
