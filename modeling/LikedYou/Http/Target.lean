/-!
# Request targets

What a request is for is named by the path on the server, or by a whole address with a scheme and an
authority in front of the path, in which a path may be missing. A query or a fragment after the path
does not count. Any other target has no path.
-/

namespace LikedYou.Http.Target

/-- Whether a character begins a query or a fragment. -/
def endsPath (c : Char) : Bool := c = '?' || c = '#'

/-- Whether a character may stand in a scheme. -/
def isSchemeChar (c : Char) : Bool := c.isAlphanum || ['+', '-', '.', '~'].contains c

/-- What follows the scheme of an address. -/
def afterScheme? (target : List Char) : Option (List Char) :=
  match target.dropWhile isSchemeChar with
  | ':' :: '/' :: '/' :: rest => some rest
  | _ => none

/-! ## Authorities

An authority names a host, with the name of a user and an `@` in front of it and with a colon and a
port behind it, if there are any. A numeric host is in brackets. It is read once from front to back:
colons and percent signs count up to an `@`, where they were part of a user's name, and up to the
closing bracket, where they were part of a numeric host.
-/

/-- What was seen of an authority. -/
structure Authority where
  colons : Nat
  percent : Bool
  opened : Bool
  closed : Bool
  /-- Whether the last character was an `@`. -/
  atHost : Bool
  deriving DecidableEq, Repr

namespace Authority

/-- Nothing was seen yet. -/
def start : Authority := ⟨0, false, false, false, false⟩

/-- Whether a character has no meaning of its own in an authority. -/
def isPlain (c : Char) : Bool := c.isAlphanum || "-._~!$&'()*+,;=".toList.contains c

/-- The most colons of a numeric host. -/
def maxColons : Nat := 8

/-- Read a character. -/
def next? (a : Authority) (c : Char) : Option Authority :=
  let a := { a with atHost := c = '@' }
  if c = ':' then if a.colons < maxColons then some { a with colons := a.colons + 1 } else none
  else if c = '%' then some { a with percent := true }
  else if c = '@' then some { a with colons := 0, percent := false }
  else if c = '[' then if a.percent || a.opened then none else some { a with opened := true }
  else if c = ']' then
    if !a.opened || a.closed then none
    else some { a with closed := true, colons := 0, percent := false }
  else if isPlain c then some a
  else none

/-- Whether an authority may end here. -/
def isComplete (a : Authority) : Bool :=
  a.opened = a.closed && a.colons ≤ 1 && !a.percent && !a.atHost

/-- Whether a text is an authority. -/
def accepts (text : List Char) : Bool :=
  !text.isEmpty && (text.foldlM next? start).any isComplete

end Authority

/-! ## Paths -/

/-- The path of what follows the scheme of an address. -/
def pathOfAddress? (address : List Char) : Option (List Char) :=
  let inAuthority (c : Char) : Bool := !endsPath c && c ≠ '/'
  if !Authority.accepts (address.takeWhile inAuthority) then none
  else
    match (address.dropWhile inAuthority).takeWhile (!endsPath ·) with
    | [] => some ['/']
    | path => some path

/-- The path of a target. -/
def path? (target : String) : Option String :=
  let path :=
    match target.toList with
    | '/' :: rest => some ('/' :: rest.takeWhile (!endsPath ·))
    | target => (afterScheme? target).bind pathOfAddress?
  path.map String.ofList

end LikedYou.Http.Target
