/-!
# Values of TOML documents

Settings are texts, truth values, arrays and tables.  Of numbers and dates, which no setting is, only
the kind is kept.
-/

namespace TimeRollup.Toml

inductive Value where
  | text (content : String)
  | boolean (value : Bool)
  | number
  | date
  | array (values : List Value)
  | table (entries : List (String × Value))
  deriving Inhabited, Repr

namespace Value

def text? : Value → Option String
  | .text content => some content
  | _ => none

def boolean? : Value → Option Bool
  | .boolean flag => some flag
  | _ => none

def array? : Value → Option (List Value)
  | .array elements => some elements
  | _ => none

end Value

end TimeRollup.Toml
