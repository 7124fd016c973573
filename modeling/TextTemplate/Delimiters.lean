import TextTemplate.Text.Basic

/-!
# Delimiters

A token is a name between an opening and a closing delimiter.  Neither may be empty: `make` is the only way in
from arbitrary texts, and it names the side at fault, the opening one first.
-/

namespace TextTemplate

/-- The two ends of a token. -/
inductive Side
  | opening
  | closing
  deriving DecidableEq

/-- The name of a side in messages and in stored settings. -/
def Side.name : Side → Text
  | .opening => ['o', 'p', 'e', 'n']
  | .closing => ['c', 'l', 'o', 's', 'e']

/-- The refusal of an empty delimiter. -/
structure EmptyDelimiter where
  side : Side
  deriving DecidableEq

namespace EmptyDelimiter

/-- What is wrong, for a reader. -/
def message (e : EmptyDelimiter) : String :=
  String.ofList e.side.name ++ " delimiter must not be empty"

/-- The fixed identifier of this kind of diagnostic. -/
def code : String := "sharps::empty_delimiter"

/-- What to do about it. -/
def help : String := "use at least one character, for example `##`"

end EmptyDelimiter

/-- An opening and a closing delimiter, neither of them empty. -/
structure Delimiters where
  opening : Text
  closing : Text
  opening_ne_nil : opening ≠ []
  closing_ne_nil : closing ≠ []
  deriving DecidableEq

namespace Delimiters

/-- The delimiters made of two texts, refusing an empty one. -/
def make (opening closing : Text) : Except EmptyDelimiter Delimiters :=
  if ho : opening = [] then .error ⟨.opening⟩
  else if hc : closing = [] then .error ⟨.closing⟩
  else .ok ⟨opening, closing, ho, hc⟩

/-- The same delimiter on both sides. -/
def symmetric (delimiter : Text) : Except EmptyDelimiter Delimiters := make delimiter delimiter

/-- The text of the default delimiter. -/
def defaultText : Text := ['#', '#']

/-- `##` on both sides. -/
def default : Delimiters := ⟨defaultText, defaultText, by decide, by decide⟩

instance : Inhabited Delimiters := ⟨default⟩

end Delimiters

end TextTemplate
