import PortShare.Url.Domain
import PortShare.Url.Percent

/-! Hosts: names, numbers of 32 bits in up to four parts, addresses of eight groups, and what
stands for a host where it is not looked up. -/

namespace PortShare.Url

/-- Why a text is no URL. -/
inductive UrlFault where
  | noScheme | emptyHost | invalidPort | invalidNumber | invalidGroups | invalidName
  | invalidCharacter
  deriving DecidableEq, Repr

def UrlFault.describe : UrlFault → String
  | .noScheme => "relative URL without a base"
  | .emptyHost => "empty host"
  | .invalidPort => "invalid port number"
  | .invalidNumber => "invalid IPv4 address"
  | .invalidGroups => "invalid IPv6 address"
  | .invalidName => "invalid international domain name"
  | .invalidCharacter => "invalid domain character"

inductive Host where
  | name (cs : List Char)
  | number (n : Nat)
  | groups (gs : List Nat)
  | unread (cs : List Char)
  deriving DecidableEq, Repr

namespace Host

/-- A part of a number: hexadecimal behind `0x`, octal behind `0`, and decimal. -/
def part? : List Char → Option Nat
  | [] => none
  | '0' :: 'x' :: cs | '0' :: 'X' :: cs => digits 16 cs
  | '0' :: c :: cs => digits 8 (c :: cs)
  | cs => digits 10 cs
where
  digits (base : Nat) (cs : List Char) : Option Nat :=
    if cs.all (Numeral.isDigitIn base) then some (Numeral.value base cs) else none

/-- The parts of a name between its points; a point at the end closes it. -/
def parts (name : List Char) : List (List Char) :=
  let ps := name.splitOn '.'
  if 1 < ps.length ∧ ps.getLast? = some [] then ps.dropLast else ps

/-- Is the last part a number, so that all of them must be? -/
def endsInNumber (name : List Char) : Bool :=
  match (parts name).getLast? with
  | some [] | none => false
  | some p => p.all Char.isDigit || (part? p).isSome

/-- The number that up to four parts write: one byte each, and the last one the rest. -/
def number? (name : List Char) : Option Nat :=
  match (parts name).mapM part? with
  | none => none
  | some ns =>
    let front := ns.dropLast
    let last := ns.getLast?.getD 0
    if 4 < ns.length ∨ front.any (255 < ·) ∨ Nat.pow 256 (4 - front.length) ≤ last then none
    else some (front.foldl (fun n p => n * 256 + p) 0 * Nat.pow 256 (4 - front.length) + last)

/-- The two groups that a number of four decimal bytes at the end writes. -/
def dotted? (cs : List Char) : Option (List Nat) :=
  match (cs.splitOn '.').mapM byte? with
  | some [a, b, c, d] => some [a * 256 + b, c * 256 + d]
  | _ => none
where
  byte? (cs : List Char) : Option Nat :=
    match Numeral.value? 10 cs with
    | some n => if 255 < n ∨ (cs.head? = some '0' ∧ 1 < cs.length) then none else some n
    | none => none

/-- Groups of up to four hexadecimal digits between colons; the last may be a dotted number. -/
def groupList? : List (List Char) → Option (List Nat)
  | [] => some []
  | [p] => if p.contains '.' then dotted? p else (group? p).map ([·])
  | p :: ps =>
    match group? p, groupList? ps with
    | some g, some gs => some (g :: gs)
    | _, _ => none
where
  group? (cs : List Char) : Option Nat :=
    if cs.length ≤ 4 then Numeral.value? 16 cs else none

/-- What stands before and behind the first double colon. -/
def splitGap : List Char → Option (List Char × List Char)
  | ':' :: ':' :: cs => some ([], cs)
  | c :: cs => (splitGap cs).map fun (a, b) => (c :: a, b)
  | [] => none

/-- The eight groups; a double colon stands for one or more that are zero. -/
def groups? (cs : List Char) : Option (List Nat) :=
  let list (cs : List Char) : Option (List Nat) :=
    if cs.isEmpty then some [] else groupList? (cs.splitOn ':')
  match splitGap cs with
  | none =>
    match list cs with
    | some gs => if gs.length = 8 then some gs else none
    | none => none
  | some (a, b) =>
    match list a, list b with
    | some front, some back =>
      if front.length + back.length < 8 ∧ !a.contains '.' then
        some (front ++ List.replicate (8 - front.length - back.length) 0 ++ back)
      else none
    | _, _ => none

/-- An address in brackets. -/
def bracketed (cs : List Char) : Except UrlFault Host :=
  if cs.getLast? = some ']' then
    match groups? cs.dropLast with
    | some gs => .ok (.groups gs)
    | none => .error .invalidGroups
  else .error .invalidGroups

/-- The host of a URL whose scheme says how hosts are looked up. -/
def ofName (cs : List Char) : Except UrlFault Host :=
  match domainName? (percentDecode cs) with
  | none => .error .invalidName
  | some [] => .error .emptyHost
  | some domain =>
    if endsInNumber domain then
      match number? domain with
      | some n => .ok (.number n)
      | none => .error .invalidNumber
    else .ok (.name domain)

def isForbidden (c : Char) : Bool :=
  c == '\x00' || " #/:<>?@[\\]^|".toList.contains c

/-- The host that `cs` writes; `known` says whether the scheme's hosts are looked up. -/
def read (known : Bool) (cs : List Char) : Except UrlFault Host :=
  match cs with
  | '[' :: inner => bracketed inner
  | cs =>
    if known then ofName cs
    else if cs.any isForbidden then .error .invalidCharacter
    else .ok (.unread (percentEncode [] cs))

end Host

end PortShare.Url
