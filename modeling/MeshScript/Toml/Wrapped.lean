import MeshScript.Toml.Value
import MeshScript.Toml.Datetime
/-!
# MeshScript.Toml.Wrapped -- dates in the form of tables

Where a format knows no dates, one is handed on as a table with a reserved key, which
has the written date for its value. So a table whose first key is the reserved one
stands for that date. Its other keys do not count; a reserved key further behind is a
key like any other.

`Value.unwrap?` puts the dates in the place of such tables, from the outermost inwards,
and refuses a value in which the first key is reserved and no date is behind it.
-/

namespace MeshScript.Toml

/-- The key of a date in the form of a table. -/
def wrapKey : Text := "$__toml_private_datetime".toList

/-- The first key is the reserved one. -/
def wrapsDate (fields : List (Text × Value)) : Bool :=
  match fields with
  | [] => false
  | (key, _) :: _ => key = wrapKey

/-- The date that the first field is the text of. -/
def wrappedDate? (fields : List (Text × Value)) : Option Value :=
  match fields with
  | (_, .string written) :: _ => Value.datetime <$> written.read? datetime
  | _ => none

mutual

/-- **The value with its dates unwrapped.** -/
def Value.unwrap? : Value → Option Value
  | .array items => Value.array <$> unwrapItems? items
  | .table fields =>
    if wrapsDate fields then wrappedDate? fields else Value.table <$> unwrapFields? fields
  | other => some other

/-- The items of an array with their dates unwrapped. -/
def unwrapItems? : List Value → Option (List Value)
  | [] => some []
  | item :: rest => do return (← item.unwrap?) :: (← unwrapItems? rest)

/-- The fields of a table with their dates unwrapped. -/
def unwrapFields? : List (Text × Value) → Option (List (Text × Value))
  | [] => some []
  | (key, value) :: rest => do return (key, ← value.unwrap?) :: (← unwrapFields? rest)

end

end MeshScript.Toml
