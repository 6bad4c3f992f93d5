/-!
# Line breaks

Texts in files may end their lines with carriage returns, line feeds, or both; inside the program lines end with
line feeds.
-/

namespace CrudScaffold.Text

/-- The text with every kind of line end as a line feed. -/
def withLineFeeds : List Char → List Char
  | [] => []
  | '\r' :: '\n' :: rest => '\n' :: withLineFeeds rest
  | '\r' :: rest => '\n' :: withLineFeeds rest
  | c :: rest => c :: withLineFeeds rest

end CrudScaffold.Text
