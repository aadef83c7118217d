import RuleAudit.CommandLine.Course
import RuleAudit.Value.JsonWriter

/-!
# The command

Reads the places on disk that the words of the command line name, and the environment variables that
the settings there refer to; runs the command on them; and prints what it puts out. Everything that
is decided is decided by `CommandLine.run`.
-/

namespace RuleAudit

/-- The name of a place on disk. -/
def placeText : List String → String
  | [] => "."
  | "/" :: rest => "/" ++ "/".intercalate rest
  | parts => "/".intercalate parts

/-- The tree with what is on disk at a place and, when `deep`, below it. What cannot be read is left
out. -/
partial def readPlace (tree : FileTree) (place : List String) (deep : Bool) : IO FileTree := do
  let path := (← IO.currentDir) / placeText place
  try
    if ← path.isDir then
      let mut tree := if place.isEmpty then tree else tree.add place .directory
      if deep then
        for entry in ← path.readDir do
          tree ← readPlace tree (place ++ [entry.fileName]) true
      return tree
    else if ← path.pathExists then
      return tree.add place (.file (.octets (← IO.FS.readBinFile path).toList))
    else return tree
  catch _ => return tree

/-- The tree with what a path leads to, and the directories it passes on the way. -/
def readPath (tree : FileTree) (path : FilePath) : IO FileTree := do
  let mut tree := tree
  let mut here := FileTree.start path
  let mut left := path.parts.length
  if left == 0 then tree ← readPlace tree here true
  for part in path.parts do
    left := left - 1
    here := if part == ".." then FileTree.above here else here ++ [part]
    tree ← readPlace tree here (left == 0)
  return tree

/-- The variables that are set, of those that the settings refer to. -/
def readEnvironment (tree : FileTree) (places : CommandLine.Places) : IO (Keyed String) := do
  let names := settingsReferences tree places.root places.config
  names.filterMapM fun name => do return (← IO.getEnv name).map fun value => (name, value)

/-- What the words of a command line find around them. -/
def readSurroundings (words : List String) : IO CommandLine.Surroundings := do
  match CommandLine.Command.read [] words with
  | .error _ => return { tree := [] }
  | .ok command =>
    let mut tree : FileTree := []
    for path in command.paths do
      tree ← readPath tree path
    return { tree := tree, env := ← readEnvironment tree command.places }

/-- Print something a command puts out. -/
def putOut : CommandLine.Output → IO Unit
  | .line ⟨.stdout, text⟩ => IO.println text
  | .line ⟨.stderr, text⟩ => IO.eprintln text
  | .log source message => IO.eprintln s!"WARNING {source.name}: {message}"
  | .document v => IO.println (Json.pretty v)

end RuleAudit

/-- Run the command that the words of the command line stand for. -/
def main (words : List String) : IO UInt32 := do
  let course := RuleAudit.CommandLine.run (← RuleAudit.readSurroundings words) words
  for item in course.output do
    RuleAudit.putOut item
  match course.result with
  | .ok code => return code.toUInt32
  | .error (.usage problem) =>
    IO.eprintln problem.label
    return 2
  | .error fault =>
    IO.eprintln s!"{fault.label}: {fault.message}"
    return 1
