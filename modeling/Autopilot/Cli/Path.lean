/-!
# Paths

A path is a text with slashes between its parts.  `Path.join` gives the path of a file in a folder,
and `Path.around` the folders around a path.
-/

namespace Autopilot.Cli.Path

/-- The path of a file in a folder. -/
def join (folder name : String) : String :=
  if folder.endsWith "/" then folder ++ name else folder ++ "/" ++ name

/-- The parts of a path. -/
def parts (path : String) : List String :=
  path.splitOn "/"

/-- Whether a part leads to where it stands: it is empty or a point. -/
def stays (part : String) : Bool :=
  part == "" || part == "."

/-- The parts without those at the end for which a condition holds. -/
def trimEnd (condition : String → Bool) (parts : List String) : List String :=
  (parts.reverse.dropWhile condition).reverse

/-- The stations on the way along the parts of a path, one for every part that does not stay. -/
def stations : List String → List (List String)
  | [] => []
  | part :: rest =>
    let further := (stations rest).map (part :: ·)
    if stays part then further else [part] :: further

/-- The stations on the way to a path, from the one just before it back to the first. -/
def around (parts : List String) : List (List String) :=
  (stations (trimEnd stays parts).dropLast).reverse

end Autopilot.Cli.Path
