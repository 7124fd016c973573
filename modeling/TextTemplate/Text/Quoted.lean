import TextTemplate.Text.Basic
import TextTemplate.Text.Quoted.Table

/-!
# Quoted texts for readers

How a text is shown in a message: between double quotes, with quotes, backslashes and everything that would not be
seen escaped.
-/

namespace TextTemplate

namespace Text

/-- Whether a character shows nothing by itself. -/
def isUnmarked (c : Char) : Bool :=
  decide (c < ' ') || unmarkedRanges.any fun r => decide (r.1 ≤ c.toNat ∧ c.toNat ≤ r.2)

/-- A character as it stands between quotes. -/
def quotedChar (c : Char) : Text :=
  match c with
  | '"' => ['\\', '"']
  | '\\' => ['\\', '\\']
  | '\n' => ['\\', 'n']
  | '\r' => ['\\', 'r']
  | '\t' => ['\\', 't']
  | '\x00' => ['\\', '0']
  | c => if isUnmarked c then ['\\', 'u', '\x7b'] ++ Nat.toDigits 16 c.toNat ++ ['\x7d'] else [c]

/-- A text between quotes. -/
def quoted (t : Text) : Text := '"' :: (t.flatMap quotedChar ++ ['"'])

end Text

end TextTemplate
