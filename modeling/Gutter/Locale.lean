/-!
# Message languages

The language in which a linter is asked to word its messages. English is told apart whatever its
letter case; every other code is kept as it is written.
-/

namespace Gutter

/-- A language code. -/
inductive Locale where
  | english
  | other (code : String)
  deriving DecidableEq, Repr

namespace Locale

/-- The language of a code: `en` in any letter case of ASCII is English. -/
def ofCode (code : String) : Locale :=
  if code.map Char.toLower = "en" then .english else .other code

def code : Locale → String
  | .english => "en"
  | .other code => code

def default : Locale := .other "zh"

/-- Whether a language is the one that reading its code gives; reading never gives another. -/
def IsCanonical (l : Locale) : Prop := ofCode l.code = l

end Locale

end Gutter
