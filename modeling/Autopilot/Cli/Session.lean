import Autopilot.Cli.Path
import Autopilot.Cli.Simulation
import Autopilot.Text.Quoted

/-!
# Sessions

`Flags.run` is a whole session on a tree of files: it simulates, makes the output folder, and writes
the result into it.  The `Outcome` has all lines that were said.
-/

namespace Autopilot.Cli

/-- What a session says in all, and how it ends. -/
structure Outcome where
  lines : List String
  ending : Ending
deriving Repr

namespace Flags

/-- The path of the result. -/
def resultPath (flags : Flags) (product : Product) : String :=
  Path.join flags.outputDir product.name

/-- The closing lines for the result. -/
def closing (flags : Flags) (product : Product) : List String :=
  product.closing (Text.quoted (flags.resultPath product))

/-- Writes the result to a tree of files. -/
def write (flags : Flags) (product : Product) (tree : FileTree) : Except Failure FileTree := do
  let tree ← (tree.makeFolders flags.outputDir).mapError (.makingFolder flags.outputDir)
  let path := flags.resultPath product
  (tree.write path product.text).mapError (.writing path)

/-- A whole session on a tree of files. -/
def run (flags : Flags) (tree : FileTree) : Outcome × FileTree :=
  let simulation := flags.simulate tree.read
  match simulation.product with
  | .error ending => ({ lines := simulation.lines, ending }, tree)
  | .ok product =>
    match flags.write product tree with
    | .error failure => ({ lines := simulation.lines, ending := .failed failure }, tree)
    | .ok tree =>
      ({ lines := simulation.lines ++ flags.closing product, ending := .finished }, tree)

end Flags

end Autopilot.Cli
