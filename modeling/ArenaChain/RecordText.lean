/-!
# Text of records and lists

How a value is written for diagnosis: a label with its named fields in braces,
or the items of a list in brackets, separated by a comma and a space.
-/

namespace ArenaChain

/-- A label and its fields, each with its text, in braces. -/
def recordText (label : String) (fields : List (String × String)) : String :=
  let texts := fields.map fun field => field.1 ++ ": " ++ field.2
  label ++ " \x7b " ++ ", ".intercalate texts ++ " \x7d"

/-- The texts of some items, in brackets. -/
def listText (items : List String) : String :=
  "[" ++ ", ".intercalate items ++ "]"

end ArenaChain
