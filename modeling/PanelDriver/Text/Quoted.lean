import PanelDriver.Text.NonGraphic

/-!
Text between quotation marks. Quotation marks and backslashes follow a backslash, a few controls
have a letter, and other characters that show nothing by themselves are written by their code
points.
-/

namespace PanelDriver.Text

/-- A number in hexadecimal digits, in lower case and without leading zeros. -/
def hex (n : Nat) : List Char := Nat.toDigits 16 n

def quoteChar (c : Char) : List Char :=
  match c with
  | '\x00' => ['\\', '0']
  | '\t' => ['\\', 't']
  | '\n' => ['\\', 'n']
  | '\r' => ['\\', 'r']
  | '"' => ['\\', '"']
  | '\\' => ['\\', '\\']
  | c => if isNonGraphic c then '\\' :: 'u' :: '\x7b' :: hex c.toNat ++ ['\x7d'] else [c]

def quoted (s : String) : String :=
  String.ofList ('"' :: s.toList.flatMap quoteChar ++ ['"'])

end PanelDriver.Text
