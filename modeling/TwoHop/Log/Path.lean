import TwoHop.Text.Split

namespace TwoHop.Log.Path

def defaultFile : String := "deadbeef.log"

structure Place where
  directory : String
  file : String
  deriving DecidableEq, Repr

def isNoStep (piece : List Char) : Bool := piece == [] || piece == ['.']

def dropNoSteps (pieces : List (List Char)) : List (List Char) :=
  (pieces.reverse.dropWhile isNoStep).reverse

def splitStart : List Char → List Char × List Char
  | '/' :: rest => (['/'], rest)
  | ['.'] => (['.'], [])
  | '.' :: '/' :: rest => (['.'], '/' :: rest)
  | cs => ([], cs)

def joinSteps (pieces : List (List Char)) : List Char := List.intercalate ['/'] pieces

/-- The last step names the file, unless it leads upwards; the steps before it are the directory,
`.` if there are none. -/
def split (path : String) : Place :=
  let (start, body) := splitStart path.toList
  match (dropNoSteps (Text.splitAll '/' body)).reverse with
  | [] => ⟨".", defaultFile⟩
  | last :: before =>
    let directory := start ++ joinSteps (dropNoSteps before.reverse)
    ⟨if directory.isEmpty then "." else .ofList directory,
      if last = ['.', '.'] then defaultFile else .ofList last⟩

end TwoHop.Log.Path
