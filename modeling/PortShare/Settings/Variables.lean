/-! Environment variables, and references to them in a text. -/

namespace PortShare

/-- The environment, as entries of a name and a value. -/
abbrev Variables := List (String × String)

/-- The value of the first entry that, written with an equals sign between name and value, starts
with the given name and such a sign. -/
def Variables.get? (vars : Variables) (name : String) : Option String :=
  vars.findSome? fun (key, value) =>
    let entry := key.toList ++ '=' :: value.toList
    let start := name.toList ++ ['=']
    if start.isPrefixOf entry then some (String.ofList (entry.drop start.length)) else none

namespace Reference

/-- The name in a reference whose opening brace is behind us, and what follows the reference. -/
def name? (cs : List Char) : Option (List Char × List Char) :=
  let name := cs.takeWhile (· != '\x7d')
  match name, cs.drop name.length with
  | [], _ | _, [] => none
  | name, _ :: rest => some (name, rest)

theorem length_of_name {cs name rest : List Char} (h : name? cs = some (name, rest)) :
    rest.length < cs.length := by
  unfold name? at h
  grind [List.length_drop]

def write (name : List Char) : List Char := '$' :: '\x7b' :: (name ++ ['\x7d'])

/-- Puts values for the references in a text, from left to right; one whose name has no value
stays as it is written, and what has been put in is not looked at again. -/
def substitute (value? : List Char → Option (List Char)) (cs : List Char) : List Char :=
  match cs with
  | [] => []
  | [c] => [c]
  | c :: d :: rest =>
    if c = '$' ∧ d = '\x7b' then
      match h : name? rest with
      | some (name, after) =>
        have := length_of_name h
        (value? name).getD (write name) ++ substitute value? after
      | none => c :: substitute value? (d :: rest)
    else c :: substitute value? (d :: rest)
termination_by cs.length
decreasing_by all_goals simp only [List.length_cons]; omega

end Reference

/-- The text with the values of variables in place of the references to them. -/
def Variables.substitute (vars : Variables) (s : String) : String :=
  String.ofList (Reference.substitute
    (fun name => (vars.get? (String.ofList name)).map String.toList) s.toList)

end PortShare
