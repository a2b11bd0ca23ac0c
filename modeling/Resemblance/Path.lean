/-!
Paths as texts: names between slashes, absolute if they start with one.
-/

namespace Resemblance.Path

def isAbsolute (path : String) : Bool :=
  path.toList.head? == some '/'

/-- A path seen from another; an absolute path is its own answer. -/
def join (base path : String) : String :=
  if isAbsolute path then path
  else if base.isEmpty || base.toList.getLast? == some '/' then base ++ path
  else base ++ "/" ++ path

def pieces : List Char → List (List Char)
  | [] => [[]]
  | c :: rest =>
      match pieces rest with
      | [] => []
      | piece :: more => if c = '/' then [] :: piece :: more else (c :: piece) :: more

/-- The names of a path: the pieces that are neither empty nor a single dot. -/
def names (path : String) : List String :=
  ((pieces path.toList).filter fun piece => !piece.isEmpty && piece != ['.']).map String.ofList

def fileName (path : String) : Option String :=
  (names path).getLast?.filter (· != "..")

/-- A name cut at its last dot. A name whose only dot comes first is not cut. -/
def splitName (name : String) : String × Option String :=
  let reversed := name.toList.reverse
  let after := reversed.takeWhile (· != '.')
  match reversed.drop after.length with
  | '.' :: before =>
      if before.isEmpty then (name, none)
      else (String.ofList before.reverse, some (String.ofList after.reverse))
  | _ => (name, none)

def extension (path : String) : Option String :=
  (fileName path).bind fun name => (splitName name).2

def stem (name : String) : String :=
  (splitName name).1

def parent (path : String) : String :=
  let reversed := path.toList.reverse.dropWhile (· == '/')
  let before := reversed.dropWhile (· != '/')
  match before.dropWhile (· == '/') with
  | [] => if before.isEmpty then "" else "/"
  | rest => String.ofList rest.reverse

end Resemblance.Path
