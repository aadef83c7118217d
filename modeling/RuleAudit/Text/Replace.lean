/-!
# Replacing parts of a text

Occurrences of a needle are taken from left to right and do not overlap.
-/

namespace RuleAudit.Text

/-- Every occurrence of a needle replaced, after passing over `skip` characters. -/
def replaceFrom (needle by_ : List Char) : Nat → List Char → List Char
  | _, [] => []
  | skip + 1, _ :: rest => replaceFrom needle by_ skip rest
  | 0, c :: rest =>
    if needle.isPrefixOf (c :: rest) then
      by_ ++ replaceFrom needle by_ (needle.length - 1) rest
    else c :: replaceFrom needle by_ 0 rest

/-- Every occurrence of a non-empty needle replaced. -/
def replaceChars (needle by_ cs : List Char) : List Char :=
  replaceFrom needle by_ 0 cs

/-- Every occurrence of a non-empty needle in a text replaced. -/
def replaceAll (needle by_ s : String) : String :=
  String.ofList (replaceChars needle.toList by_.toList s.toList)

/-- Whether a list of characters holds another somewhere. -/
def holdsChars (part : List Char) : List Char → Bool
  | [] => part.isEmpty
  | c :: rest => part.isPrefixOf (c :: rest) || holdsChars part rest

/-- Whether a text holds another somewhere. -/
def holds (s part : String) : Bool :=
  holdsChars part.toList s.toList

end RuleAudit.Text
