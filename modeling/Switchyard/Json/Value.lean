/-!
# JSON values

The values of a JSON text. A text that breaks off, or stops being JSON, still has a value up to
that place: `broken` stands for a value that cannot be read, and an array or an object that is not
`whole` ends where its text breaks. So the first fault of a text can be found by going through its
value in order.
-/

namespace Switchyard.Json

/-- A JSON value. Numbers carry their text. -/
inductive Value where
  | null
  | boolean (value : Bool)
  | integer (text : String)
  | float (text : String)
  | string (text : String)
  | array (items : List Value) (whole : Bool)
  | object (members : List (String × Value)) (whole : Bool)
  | broken

end Switchyard.Json
