import ClauseBinding.Text.HiddenTable

/-!
Contract: texts in double quotes, as messages show them.

Owns: which characters are escaped, and how.

Does not own: quoting in data.
-/

namespace ClauseBinding.Text

/-- A character inside double quotes. What has no form of its own is shown by its code. -/
def quotedChar (c : Char) : List Char :=
  match c with
  | '\x00' => ['\\', '0']
  | '\t' => ['\\', 't']
  | '\n' => ['\\', 'n']
  | '\r' => ['\\', 'r']
  | '"' => ['\\', '"']
  | '\\' => ['\\', '\\']
  | c => if isHidden c then ['\\', 'u', '\x7b'] ++ Nat.toDigits 16 c.toNat ++ ['\x7d'] else [c]

def quoted (text : String) : String :=
  String.ofList ('"' :: text.toList.flatMap quotedChar ++ ['"'])

end ClauseBinding.Text
