import Breadbox.Json.Scalar

/-!
# JSON values

A JSON value as read from a text (`Breadbox.Json.Parse`). Object members keep their order,
repeated keys included, so a reader of the value decides which of two equal keys counts.
-/

namespace Breadbox.Json

/-- A JSON value. Object members keep their order, repeated keys included. -/
inductive Value where
  | null
  | bool (b : Bool)
  | number (n : Number)
  | string (t : Text)
  | array (items : List Value)
  | object (members : List (Text × Value))
deriving Repr

end Breadbox.Json
