import PortShare.Text.Category
import PortShare.Text.Numeral

/-!
Quoted texts, as messages show what was typed: in double quotes, on one line, and with every
character that would not be seen written as an escape. -/

namespace PortShare.Quoted

def escapeChar (c : Char) : List Char :=
  match c with
  | '"' => ['\\', '"']
  | '\\' => ['\\', '\\']
  | '\t' => ['\\', 't']
  | '\n' => ['\\', 'n']
  | '\r' => ['\\', 'r']
  | '\x00' => ['\\', '0']
  | c =>
    if Category.isHidden c then
      ['\\', 'u', '\x7b'] ++ Numeral.digits 16 c.toNat ++ ['\x7d']
    else [c]

def escape (cs : List Char) : List Char := cs.flatMap escapeChar

def chars (cs : List Char) : List Char := '"' :: (escape cs ++ ['"'])

end PortShare.Quoted

namespace PortShare

/-- The text in quotes. -/
def quote (s : String) : String := String.ofList (Quoted.chars s.toList)

end PortShare
