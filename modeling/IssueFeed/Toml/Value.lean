import IssueFeed.Decimal.Shortest
import IssueFeed.Text.Quoted

/-!
Values of a TOML document.
-/
namespace IssueFeed.Toml

inductive Value where
  | string (s : String)
  | integer (z : Int)
  /-- A fraction by its text. -/
  | float (text : String)
  | boolean (b : Bool)
  /-- A date, a time or both; which one does not matter here. -/
  | dateTime
  | array (elements : List Value)
  | table (entries : List (String × Value))

/-- A value as it is named where another was expected. -/
def Value.described : Value → String
  | .string s => s!"string {Text.quoted s}"
  | .integer z => s!"integer `{String.ofList (Text.signedDecimal z)}`"
  | .float text => s!"floating point `{text}`"
  | .boolean b => if b then "boolean `true`" else "boolean `false`"
  | .dateTime => "map"
  | .array _ => "sequence"
  | .table _ => "map"

end IssueFeed.Toml
