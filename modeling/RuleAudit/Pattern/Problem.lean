import RuleAudit.Text.Quoted

/-!
# What can be wrong with a pattern

Each cause has one wording. Most causes are tied to a place in the pattern, which the message gives
as a position, and as a line and column too when the pattern spans several lines.
-/

namespace RuleAudit.Pattern

/-- A reason why a pattern is refused. -/
inductive Problem where
  | escapeAtEnd
  | badEscape (escape : String)
  | incompleteEscape (escape : String)
  | octalTooLarge (escape : String)
  | missingBrace
  | unknownCharacterName (name : String)
  | openGroup
  | groupOfSameLookBehind
  | noSuchGroup (number : Nat)
  | unterminatedSet
  | badRange (first last : String)
  | minAboveMax
  | nothingToRepeat
  | multipleRepeat
  | unexpectedEnd
  | missingName (what : String)
  | unterminatedName (terminator : String)
  | badGroupName (name : String)
  | unknownGroupName (name : String)
  | badGroupNumber
  | redefinedGroup (name : String) (number earlier : Nat)
  | tooManyGroups
  | unknownExtension (text : String)
  | unterminatedComment
  | unterminatedGroup
  | conditionalBranches
  | flagsNotAtStart
  | localeFlag
  | incompatibleFlags
  | missingFlagEnd
  | unknownFlag
  | globalFlagOn
  | globalFlagOff
  | missingFlag
  | typeFlagOff
  | missingColon
  | flagOnAndOff
  | unbalanced
  | variableLookBehind
  | farLookBehind
  | repeatInTemplate (operator : String)
  deriving Repr, DecidableEq

/-- The wording of a problem, without its place. -/
def Problem.text : Problem → String
  | .escapeAtEnd => "bad escape (end of pattern)"
  | .badEscape e => s!"bad escape {e}"
  | .incompleteEscape e => s!"incomplete escape {e}"
  | .octalTooLarge e => s!"octal escape value {e} outside of range 0-0o377"
  | .missingBrace => "missing \x7b"
  | .unknownCharacterName n => "undefined character name " ++ Text.quoted n
  | .openGroup => "cannot refer to an open group"
  | .groupOfSameLookBehind => "cannot refer to group defined in the same lookbehind subpattern"
  | .noSuchGroup n => s!"invalid group reference {n}"
  | .unterminatedSet => "unterminated character set"
  | .badRange a b => s!"bad character range {a}-{b}"
  | .minAboveMax => "min repeat greater than max repeat"
  | .nothingToRepeat => "nothing to repeat"
  | .multipleRepeat => "multiple repeat"
  | .unexpectedEnd => "unexpected end of pattern"
  | .missingName what => s!"missing {what}"
  | .unterminatedName t => s!"missing {t}, unterminated name"
  | .badGroupName n => "bad character in group name " ++ Text.quoted n
  | .unknownGroupName n => "unknown group name " ++ Text.quoted n
  | .badGroupNumber => "bad group number"
  | .redefinedGroup n number earlier =>
    "redefinition of group name " ++ Text.quoted n ++ s!" as group {number}; was group {earlier}"
  | .tooManyGroups => "too many groups"
  | .unknownExtension t => s!"unknown extension {t}"
  | .unterminatedComment => "missing ), unterminated comment"
  | .unterminatedGroup => "missing ), unterminated subpattern"
  | .conditionalBranches => "conditional backref with more than two branches"
  | .flagsNotAtStart => "global flags not at the start of the expression"
  | .localeFlag => "bad inline flags: cannot use 'L' flag with a str pattern"
  | .incompatibleFlags => "bad inline flags: flags 'a', 'u' and 'L' are incompatible"
  | .missingFlagEnd => "missing -, : or )"
  | .unknownFlag => "unknown flag"
  | .globalFlagOn => "bad inline flags: cannot turn on global flag"
  | .globalFlagOff => "bad inline flags: cannot turn off global flag"
  | .missingFlag => "missing flag"
  | .typeFlagOff => "bad inline flags: cannot turn off flags 'a', 'u' and 'L'"
  | .missingColon => "missing :"
  | .flagOnAndOff => "bad inline flags: flag turned on and off"
  | .unbalanced => "unbalanced parenthesis"
  | .variableLookBehind => "look-behind requires fixed-width pattern"
  | .farLookBehind => "looks too much behind"
  | .repeatInTemplate operator => s!"internal: unsupported template operator {operator}"

/-- A place in a pattern: the position, with line and column when the pattern has several lines. -/
structure Place where
  position : Int
  line : Option (Nat × Int)
  deriving Repr, DecidableEq

/-- The place at a position of a pattern. -/
def Place.of (pattern : List Char) (position : Int) : Place :=
  let before := pattern.take position.toNat
  let line := before.count '\n' + 1
  let column := match (before.reverse.findIdx? (· == '\n')) with
    | some back => Int.ofNat (back + 1)
    | none => position + 1
  ⟨position, if pattern.contains '\n' then some (line, column) else none⟩

/-- A refused pattern. -/
inductive CompileError where
  /-- A problem, at a place where it has one. -/
  | refused (problem : Problem) (place : Option Place)
  /-- A repetition count too large to handle. -/
  | countTooLarge
  /-- The flags for narrow and for wide character classes together. -/
  | clashingClasses
  deriving Repr, DecidableEq

/-- The message of a refused pattern. -/
def CompileError.message : CompileError → String
  | .refused p none => p.text
  | .refused p (some place) =>
    let base := s!"{p.text} at position {place.position}"
    match place.line with
    | none => base
    | some (line, column) => s!"{base} (line {line}, column {column})"
  | .countTooLarge => "the repetition number is too large"
  | .clashingClasses => "ASCII and UNICODE flags are incompatible"

/-- The class of a refused pattern. -/
def CompileError.label : CompileError → String
  | .refused .. => "error"
  | .countTooLarge => "OverflowError"
  | .clashingClasses => "ValueError"

end RuleAudit.Pattern
