import PortShare.Text.Direction
import PortShare.Text.Joining
import PortShare.Url.Punycode

/-!
Labels, the parts of a domain name between its points. A label is looked up in its ASCII form; the
rules are about its letters. It may not start with a mark, hold a joiner where nothing can be
joined, be written to both sides in disorder, or be very long. -/

namespace PortShare.Url

structure Label where
  /-- The label as it is looked up. -/
  ascii : List Char
  letters : List Char
  deriving DecidableEq, Repr

namespace Label

def isAscii (cs : List Char) : Bool := cs.all fun c => c.toNat < 0x80

def startsWithMark (label : List Char) : Bool := label.head?.any Category.isMark

def nonJoiner : Char := '\u200C'

def joiner : Char := '\u200D'

def isJoiner (c : Char) : Bool := c == nonJoiner || c == joiner

/-- How the first character joins that is not transparent. -/
def nextJoining? (cs : List Char) : Option Joining :=
  (cs.map Joining.ofChar).find? (· != .transparent)

/-- Do the letters on both sides join? The text before is given from its end. -/
def isJunction (before behind : List Char) : Bool :=
  (nextJoining? before).any (fun j => j == .both || j == .behind)
    && (nextJoining? behind).any (fun j => j == .both || j == .before)

/-- May a joiner stand between two texts, the first of which is given from its end? -/
def fits (c : Char) (before behind : List Char) : Bool :=
  before.head?.any (fun p => Category.rank p == Category.viramaRank)
    || (c == nonJoiner && isJunction before behind)

/-- Do all joiners fit in a text, what is before it being given from its end? -/
def joinersFit (before : List Char) : List Char → Bool
  | [] => true
  | c :: cs => (!isJoiner c || fits c before cs) && joinersFit (c :: before) cs

/-- The longest label whose letters are not all ASCII. -/
def maxLetters : Nat := 1000

def isOrderly (label : List Char) : Bool :=
  !startsWithMark label && joinersFit [] label && (isAscii label || label.length ≤ maxLetters)

/-- Does a character call for order in the whole name? -/
def isFromRight (c : Char) : Bool :=
  Direction.ofChar c == .rightToLeft || Direction.ofChar c == .arabicDigit

/-- The directions without those at the end that follow the character before. -/
def dropAttached (ds : List Direction) : List Direction :=
  (ds.reverse.dropWhile (· == .attached)).reverse

/-- Is the label written to one side only, but for digits? The first character says to which side,
and the last one has a direction. -/
def isOneWay (label : List Char) : Bool :=
  match label.map Direction.ofChar with
  | [] => true
  | first :: rest =>
    let rest := dropAttached rest
    let endsIn (ds : List Direction) : Bool := rest.getLast?.all fun d => ds.contains d
    match first with
    | .leftToRight =>
      rest.all (fun d => d != .rightToLeft && d != .arabicDigit)
        && endsIn [.leftToRight, .digit]
    | .rightToLeft =>
      rest.all (· != .leftToRight) && !(rest.contains .digit && rest.contains .arabicDigit)
        && endsIn [.rightToLeft, .digit, .arabicDigit]
    | _ => false

/-- The longest ASCII form that is read. -/
def maxEncoded : Nat := 2000

/-- What a label in the ASCII form of other letters writes: some character that is not ASCII, and a
text that `settled` says to be written as it stands. -/
def decode? (settled : List Char → Bool) (form : List Char) : Option (List Char) :=
  if maxEncoded < form.length then none
  else
    match punycodeDecode form with
    | some letters => if !isAscii letters && settled letters then some letters else none
    | none => none

/-- The label that a text between points is. -/
def read? (settled : List Char → Bool) (text : List Char) : Option Label :=
  let label : Option Label := match text with
    | 'x' :: 'n' :: '-' :: '-' :: form => (decode? settled form).map fun cs => ⟨text, cs⟩
    | text =>
      some ⟨if isAscii text then text else "xn--".toList ++ punycodeEncode text, text⟩
  label.filter fun l => isOrderly l.letters

end Label

end PortShare.Url
