namespace LoadBench.Text

def unixEnds : List Char → List Char
  | '\r' :: '\n' :: rest => '\n' :: unixEnds rest
  | c :: rest => c :: unixEnds rest
  | [] => []

def pieces : List Char → List (List Char)
  | [] => [[]]
  | '\n' :: rest => [] :: pieces rest
  | c :: rest =>
    match pieces rest with
    | piece :: more => (c :: piece) :: more
    | [] => [[c]]

/-- The lines of a text without their ends: an empty last piece is no line. -/
def lines (text : List Char) : List (List Char) :=
  let parts := pieces (unixEnds text)
  if parts.getLast? = some [] then parts.dropLast else parts

def joinLines (rows : List (List Char)) : List Char := (rows.intersperse ['\n']).flatten

/-- The last `n` lines of a text, joined by line feeds. -/
def tailLines (n : Nat) (text : String) : String :=
  let rows := lines text.toList
  String.ofList (joinLines (rows.drop (rows.length - n)))

end LoadBench.Text
