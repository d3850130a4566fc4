/-!
# TOML values

The values of a TOML document. Of floating-point numbers and of dates only the kind is kept, since
nothing is ever read from them.
-/

namespace IssueTrace.Toml

inductive Value where
  | string (s : String)
  | integer (n : Int)
  | float
  | boolean (b : Bool)
  | date
  | array (items : List Value)
  | table (entries : List (String × Value))
  deriving Inhabited

end IssueTrace.Toml
