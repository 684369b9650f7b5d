/-!
# Paths as texts

A path is a text whose parts are divided by slashes. Its text is kept as it is written; what it
names is read off its components. Empty parts and dots inside a path name nothing. A slash at the
start is the root, a dot at the start stands for the directory one is in, and two dots are a
component like any other.
-/

namespace GoProbe.Path

/-- The pieces of a text between occurrences of `sep`. -/
def splitChars (sep : Char) : List Char → List (List Char)
  | [] => [[]]
  | c :: rest =>
    match splitChars sep rest with
    | [] => [[c]]
    | piece :: pieces => if c == sep then [] :: piece :: pieces else (c :: piece) :: pieces

/-- The pieces of a path between slashes. -/
def pieces (path : String) : List String :=
  (splitChars '/' path.toList).map String.ofList

/-- Whether a piece names nothing. -/
def isIdle (piece : String) : Bool :=
  piece == "" || piece == "."

def isAbsolute (path : String) : Bool :=
  path.toList.head? == some '/'

/-- The start of a path that is no ordinary piece: a slash, a dot, or nothing. -/
def start (path : String) : String :=
  match path.toList with
  | '/' :: _ => "/"
  | ['.'] => "."
  | '.' :: '/' :: _ => "."
  | _ => ""

/-- The pieces after the start. -/
def body (path : String) : List String :=
  pieces (String.ofList (path.toList.drop (start path).length))

/-- What the path names, step by step; the root is written as a slash. -/
def components (path : String) : List String :=
  let steps := (body path).filter fun piece => !isIdle piece
  if start path == "" then steps else start path :: steps

/-- Whether two texts are the same path. -/
def same (a b : String) : Bool :=
  components a == components b

/-- The path without its last component; the root and the empty path have none. -/
def parent? (path : String) : Option String :=
  match (body path).reverse.dropWhile isIdle with
  | _ :: rest => some (start path ++ "/".intercalate (rest.dropWhile isIdle).reverse)
  | [] => if start path == "." then some "" else none

/-- The path and the paths above it, at most `count` of them. -/
def ancestors : Nat → String → List String
  | 0, _ => []
  | count + 1, path =>
    path :: match parent? path with
      | some above => ancestors count above
      | none => []

/-- A path taken relative to another; an absolute path stands for itself. -/
def join (base path : String) : String :=
  if isAbsolute path then path
  else if base == "" || base.toList.getLast? == some '/' then base ++ path
  else base ++ "/" ++ path

/-- The file beside a source that holds its tree. -/
def dumpPath (source suffix : String) : String :=
  source ++ suffix

end GoProbe.Path
