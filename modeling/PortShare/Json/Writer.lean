import PortShare.Decimal.Shortest
import PortShare.Json.Value

/-!
Writing JSON, on one line or laid out with two blanks a level. Texts keep every character
but quotes, backslashes and controls. -/

namespace PortShare.Json

def escapeChar (c : Char) : List Char :=
  match c with
  | '"' => ['\\', '"']
  | '\\' => ['\\', '\\']
  | '\x08' => ['\\', 'b']
  | '\x0c' => ['\\', 'f']
  | '\n' => ['\\', 'n']
  | '\r' => ['\\', 'r']
  | '\t' => ['\\', 't']
  | c =>
    if c.toNat < 0x20 then
      ['\\', 'u', '0', '0', Numeral.digit (c.toNat / 16), Numeral.digit (c.toNat % 16)]
    else [c]

/-- A text between quotes. -/
def textChars (s : String) : List Char := '"' :: (s.toList.flatMap escapeChar ++ ['"'])

def Number.chars : Number → List Char
  | .natural n => Numeral.digits 10 n
  | .negative n => '-' :: Numeral.digits 10 n
  | .float minus x => (if minus then ['-'] else []) ++ x.render.toList

def Scalar.chars : Scalar → List Char
  | .null => ['n', 'u', 'l', 'l']
  | .bool true => ['t', 'r', 'u', 'e']
  | .bool false => ['f', 'a', 'l', 's', 'e']
  | .number n => n.chars
  | .text s => textChars s

mutual

/-- The value on one line, with no blanks. -/
def Value.compact : Value → List Char
  | .scalar s => s.chars
  | .list [] => ['[', ']']
  | .list (v :: vs) => '[' :: (v.compact ++ compactItems vs)
  | .object [] => ['\x7b', '\x7d']
  | .object ((k, v) :: ms) => '\x7b' :: (textChars k ++ ':' :: (v.compact ++ compactMembers ms))

def compactItems : List Value → List Char
  | [] => [']']
  | v :: vs => ',' :: (v.compact ++ compactItems vs)

def compactMembers : List (String × Value) → List Char
  | [] => ['\x7d']
  | (k, v) :: ms => ',' :: (textChars k ++ ':' :: (v.compact ++ compactMembers ms))

end

/-- A new line at nesting level `level`. -/
def newline (level : Nat) : List Char := '\n' :: List.replicate (2 * level) ' '

mutual

/-- The value with each item and member on a line of its own, inside `level` levels. -/
def Value.pretty (level : Nat) : Value → List Char
  | .scalar s => s.chars
  | .list [] => ['[', ']']
  | .list (v :: vs) =>
    '[' :: (newline (level + 1) ++ (v.pretty (level + 1) ++ prettyItems level vs))
  | .object [] => ['\x7b', '\x7d']
  | .object ((k, v) :: ms) =>
    '\x7b' :: (newline (level + 1) ++ (textChars k ++ ':' :: ' ' ::
      (v.pretty (level + 1) ++ prettyMembers level ms)))

def prettyItems (level : Nat) : List Value → List Char
  | [] => newline level ++ [']']
  | v :: vs => ',' :: (newline (level + 1) ++ (v.pretty (level + 1) ++ prettyItems level vs))

def prettyMembers (level : Nat) : List (String × Value) → List Char
  | [] => newline level ++ ['\x7d']
  | (k, v) :: ms =>
    ',' :: (newline (level + 1) ++ (textChars k ++ ':' :: ' ' ::
      (v.pretty (level + 1) ++ prettyMembers level ms)))

end

def Value.render (v : Value) : String := String.ofList v.compact

def Value.renderPretty (v : Value) : String := String.ofList (v.pretty 0)

end PortShare.Json
