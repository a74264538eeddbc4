/-!
# Line ends

Text files are read with every way to end a line taken as one.
-/

namespace ApiCatalog.Text

/-- Line ends as one line feed each: a carriage return, with or without a line
feed after it, counts as one. -/
def unifyLines : List Char → List Char
  | '\r' :: '\n' :: rest => '\n' :: unifyLines rest
  | '\r' :: rest => '\n' :: unifyLines rest
  | c :: rest => c :: unifyLines rest
  | [] => []

end ApiCatalog.Text
