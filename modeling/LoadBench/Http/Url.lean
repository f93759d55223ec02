namespace LoadBench.Http.Url

def isSlash (c : Char) : Bool := c == '/'

def trimEnd (cs : List Char) : List Char := (cs.reverse.dropWhile isSlash).reverse

def trimStart (cs : List Char) : List Char := cs.dropWhile isSlash

def join (base path : String) : String :=
  String.ofList (trimEnd base.toList ++ '/' :: trimStart path.toList)

end LoadBench.Http.Url
