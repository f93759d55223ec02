namespace LoadBench.Shell

inductive Modifier where
  | length
  | default
  | assign
  | require
  | alternative
  | dropStart (longest : Bool)
  | dropEnd (longest : Bool)
deriving DecidableEq

inductive Redirection where
  | read
  | write
  | append
  | copy
deriving DecidableEq

mutual

inductive Piece where
  | text (quoted : Bool) (chars : List Char)
  /-- The value of a parameter. With `orEmpty` an empty value counts as none. -/
  | param (quoted : Bool) (name : String) (modifier : Option Modifier) (orEmpty : Bool)
      (word : List Piece)
  | output (quoted : Bool) (script : List Item)
  | number (quoted : Bool) (expression : List Piece)

inductive Redirect where
  | mk (descriptor : Nat) (kind : Redirection) (target : List Piece)

inductive Command where
  | simple (line : Nat) (assigned : List (String × List Piece)) (words : List (List Piece))
      (redirects : List Redirect)
  | block (body : List Item) (redirects : List Redirect)
  | subshell (body : List Item) (redirects : List Redirect)
  | choose (branches : List (List Item × List Item)) (otherwise : List Item)
      (redirects : List Redirect)
  /-- A loop that goes on as long as its condition succeeds or, with `untilTrue`, fails. -/
  | repeated (untilTrue : Bool) (condition body : List Item) (redirects : List Redirect)
  | each (name : String) (words : Option (List (List Piece))) (body : List Item)
      (redirects : List Redirect)
  | select (word : List Piece) (arms : List (List (List Piece) × List Item))
      (redirects : List Redirect)
  | pipeline (negated : Bool) (stages : List Command)
  | both (first second : Command)
  | either (first second : Command)
  | define (name : String) (body : Command)

inductive Item where
  | mk (command : Command) (background : Bool)

end

abbrev Word := List Piece

end LoadBench.Shell
