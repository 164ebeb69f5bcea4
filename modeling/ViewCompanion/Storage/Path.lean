import ViewCompanion.Text.Split

namespace ViewCompanion.Storage.Path

/-- `inner` inside `outer`. A path from the very top stays as it is. -/
def join (outer inner : String) : String :=
  if inner.startsWith "/" || outer.isEmpty then inner
  else if outer.endsWith "/" then outer ++ inner
  else outer ++ "/" ++ inner

/-- Leaves out separators at the end, and single points behind them; from the last character on. -/
def trimBack : List Char → List Char
  | '/' :: rest => trimBack rest
  | '.' :: '/' :: rest => trimBack rest
  | s => s

/-- The folder around a path; a single name has the empty path around it. -/
def parent? (path : String) : Option String :=
  let s := path.toList.reverse
  match trimBack s with
  | [] => none
  | name :: rest => some (String.ofList (trimBack ((name :: rest).dropWhile (· != '/'))).reverse)

def names (path : String) : List String :=
  (Text.splitAt '/' path.toList).map String.ofList

/-- The path without separators at its end. -/
def trimEnd (path : String) : String :=
  String.ofList (path.toList.reverse.dropWhile (· == '/')).reverse

end ViewCompanion.Storage.Path
