import MeshScript.Text.Search
import MeshScript.Decimal.Binary64
/-!
# MeshScript.Toml.Value -- the values of a configuration file

A TOML document is a table of keys and values. Dates and times are kept in their
normal written form: nothing here computes with them.
-/

namespace MeshScript.Toml

/-- **A TOML value.** -/
inductive Value
  | string (text : Text)
  | integer (n : Int)
  | float (x : Binary64)
  | boolean (b : Bool)
  | datetime (written : Text)
  | array (items : List Value)
  | table (fields : List (Text × Value))

end MeshScript.Toml
