import ToolingHost.Environment
import ToolingHost.Text.UpperCase

/-! # Variables that hold secrets

Some variables must not reach the processes that the program starts. They are given by patterns that
may begin and end with a `*`; names are compared in upper case. A name that is not text matches no
pattern. -/

namespace ToolingHost.Secret

/-- The character that stands for any text at either end of a pattern. -/
def star : Char := '*'

/-- Whether `needle` occurs somewhere in a text. -/
def occursIn (needle : List Char) : List Char → Bool
  | [] => needle.isEmpty
  | c :: rest => needle.isPrefixOf (c :: rest) || occursIn needle rest

/-- Whether a key, already in upper case, matches a pattern: a `*` at the front allows any text
before the rest, one at the end any text after it. The pattern `*` alone is the text `*`. -/
def globMatches (pattern key : List Char) : Bool :=
  let pattern := Text.upper pattern
  let starred := pattern.head? == some star
  let starring := pattern.getLast? == some star
  if starred && starring && 2 ≤ pattern.length then occursIn (pattern.drop 1).dropLast key
  else if starred && !starring then (pattern.drop 1).isSuffixOf key
  else if starring && !starred then pattern.dropLast.isPrefixOf key
  else key == pattern

/-- The patterns of the variables that hold secrets. -/
def denylist : List String :=
  ["*_API_KEY", "*_TOKEN", "*_SECRET", "*_PASSWORD", "*_CREDENTIAL*", "AWS_*", "GITHUB_TOKEN"]

/-- Whether a text names a variable that holds a secret. -/
def isSecret (name : String) : Bool :=
  let key := Text.upper name.toList
  denylist.any fun pattern => globMatches pattern.toList key

/-- Whether a byte string is a text that names a variable that holds a secret. -/
def isSecretName (name : Bytes) : Bool :=
  match Utf8.text? name with
  | some text => isSecret text
  | none => false

/-- The environment that is passed on once the variables that hold secrets are taken out. -/
def scrub (env : Environment) : Environment := env.without isSecretName

/-- The names of the variables that `scrub` takes out. -/
def removed (env : Environment) : List Bytes := env.names.filter isSecretName

end ToolingHost.Secret
