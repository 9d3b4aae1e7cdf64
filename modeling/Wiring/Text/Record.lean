/-!
# Records and lists on one line

Descriptions are written on one line: a record as its name and its fields
between braces, a list between brackets, a pair between parentheses.
-/

namespace Wiring.Text

/-- A list of texts between brackets. -/
def listing (items : List String) : String :=
  "[" ++ ", ".intercalate items ++ "]"

/-- A pair between parentheses. -/
def pairing (left right : String) : String :=
  "(" ++ left ++ ", " ++ right ++ ")"

/-- A truth value as a word. -/
def truth : Bool → String
  | true => "true"
  | false => "false"

/-- A record with at least one field: its name, and each field with its
content. -/
def record (name : String) (fields : List (String × String)) : String :=
  name ++ " \x7b " ++ ", ".intercalate (fields.map fun field => field.1 ++ ": " ++ field.2) ++
    " \x7d"

end Wiring.Text
