import Spreadsheet.Text.Hidden

/-! # Quoted text

Text in double quotes, in which every character can be told: quotes, backslashes and the common
control characters stand behind a backslash, other characters that do not show as themselves are
written by their code in hexadecimal.
-/

namespace Spreadsheet.Text

def quotedChar (c : Char) : List Char :=
  match c with
  | '"' => ['\\', '"']
  | '\\' => ['\\', '\\']
  | '\n' => ['\\', 'n']
  | '\t' => ['\\', 't']
  | '\r' => ['\\', 'r']
  | '\x00' => ['\\', '0']
  | c =>
    if hiddenSet.contains c then ['\\', 'u', '\x7b'] ++ Nat.toDigits 16 c.toNat ++ ['\x7d'] else [c]

def quoted (s : String) : String := String.ofList ('"' :: s.toList.flatMap quotedChar ++ ['"'])

end Spreadsheet.Text
