import RuleAudit.Fault
import RuleAudit.Keyed

/-!
# The words of a command line

Words are options and arguments in any order. A long option `--name` takes its value after an equals
sign or as the next word; short options of one letter may be joined, and the rest of a word after a
short option that takes a value is its value. Everything after `--` is an argument.
-/

namespace RuleAudit.CommandLine

/-- An option: its long name, perhaps a letter, and whether it takes a value. -/
structure OptionSpec where
  name : String
  letter : Option Char := none
  takesValue : Bool := true
  deriving Repr, DecidableEq

/-- The options given, by long name and in order, and the arguments. An option without a value has
the empty one. -/
structure Words where
  options : List (String × String) := []
  arguments : List String := []
  deriving Repr, DecidableEq

/-- What a word gives: options, and the option that still needs the next word as its value. -/
abbrev WordReading := List (String × String) × Option String

/-- Read joined short options. -/
def readLetters (specs : List OptionSpec) : List Char → Except Fault WordReading
  | [] => .ok ([], none)
  | c :: rest =>
    match specs.find? fun s => s.letter == some c with
    | none => .error (.usage .unknownOption)
    | some spec =>
      if !spec.takesValue then
        (readLetters specs rest).map fun (given, pending) => ((spec.name, "") :: given, pending)
      else if rest.isEmpty then .ok ([], some spec.name)
      else .ok ([(spec.name, String.ofList rest)], none)

/-- The name of a long option and the value after its equals sign. -/
def splitAtEquals (cs : List Char) : List Char × Option (List Char) :=
  let name := cs.takeWhile (· != '=')
  match cs.drop name.length with
  | [] => (name, none)
  | _ :: value => (name, some value)

/-- Read a word that starts with a dash. -/
def readOption (specs : List OptionSpec) (word : String) : Except Fault WordReading :=
  let (name, value) := splitAtEquals word.toList
  match specs.find? fun s => s.name.toList == name with
  | some spec =>
    match spec.takesValue, value with
    | true, some v => .ok ([(spec.name, String.ofList v)], none)
    | true, none => .ok ([], some spec.name)
    | false, some _ => .error (.usage .badOption)
    | false, none => .ok ([(spec.name, "")], none)
  | none =>
    if word.startsWith "--" then .error (.usage .unknownOption)
    else readLetters specs (word.toList.drop 1)

/-- Whether a word is an option: a dash alone is an argument. -/
def isOption (word : String) : Bool :=
  word.startsWith "-" && word.length > 1

/-- Read the words of a command. -/
def readWords (specs : List OptionSpec) : List String → Except Fault Words
  | [] => .ok {}
  | word :: rest =>
    if word == "--" then .ok { arguments := rest }
    else if isOption word then
      match readOption specs word with
      | .error f => .error f
      | .ok (given, none) =>
        (readWords specs rest).map fun w => { w with options := given ++ w.options }
      | .ok (given, some name) =>
        match rest with
        | [] => .error (.usage .badOption)
        | value :: rest =>
          (readWords specs rest).map fun w =>
            { w with options := given ++ (name, value) :: w.options }
    else (readWords specs rest).map fun w => { w with arguments := word :: w.arguments }

namespace Words

/-- Whether an option was given. -/
def has (w : Words) (name : String) : Bool :=
  w.options.any (·.1 == name)

/-- All values of an option, in order. -/
def values (w : Words) (name : String) : List String :=
  (w.options.filter (·.1 == name)).map Prod.snd

/-- The last value of an option. -/
def last? (w : Words) (name : String) : Option String :=
  (w.values name).getLast?

end Words

end RuleAudit.CommandLine
