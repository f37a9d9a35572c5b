import SchemaTypes.Text.Percent
import SchemaTypes.Text.Split

set_option autoImplicit false

/-! # Numeric host addresses

The texts that denote an address of version 4 or 6 of the internet protocol.
-/

namespace SchemaTypes.IpAddress

/-- A decimal number below 256 without leading zeros. -/
def isOctet (s : List Char) : Bool :=
  match s with
  | [] => false
  | c :: rest =>
    s.all Char.isDigit && s.length ≤ 3 && (rest.isEmpty || c != '0')
      && s.foldl (fun n d => 10 * n + (d.toNat - 48)) 0 ≤ 255

/-- Four octets with points between them. -/
def isVersion4 (s : List Char) : Bool :=
  let parts := Text.split (· == '.') s
  parts.length == 4 && parts.all isOctet

/-- One to four hexadecimal digits. -/
def isGroup (s : List Char) : Bool :=
  !s.isEmpty && s.length ≤ 4 && s.all fun c => (Text.Percent.hexValue c).isSome

/-- A list of groups, one that ends in an address of version 4 counting as two; none if the last
part looks like such an address and is not one. -/
def expandLast (parts : List (List Char)) : Option (List (List Char)) :=
  match parts.getLast? with
  | some last =>
    if last.contains '.' then
      if isVersion4 last then some (parts.dropLast ++ [['0'], ['0']]) else none
    else some parts
  | none => some parts

/-- The groups on one side of a double colon: none, or all of them there. -/
def isSide (parts : List (List Char)) : Bool := parts == [[]] || parts.all isGroup

/-- The number of groups on one side of a double colon. -/
def sideSize (parts : List (List Char)) : Nat := if parts == [[]] then 0 else parts.length

/-- Eight groups with colons between them, of which a double colon may replace one or more. -/
def areGroups (parts : List (List Char)) : Bool :=
  let inner := (parts.drop 1).dropLast
  match inner.count [] with
  | 0 => parts.length == 8 && parts.all isGroup
  | 1 =>
    let position := (inner.takeWhile fun part => !part.isEmpty).length + 1
    let high := parts.take position
    let low := parts.drop (position + 1)
    isSide high && isSide low && sideSize high + sideSize low < 8
  | _ => false

/-- An address of version 6 with an optional scope after a percent sign. -/
def isVersion6 (s : List Char) : Bool :=
  let (address, scope) := Text.cutFirst '%' s
  let scopeOk := match scope with
    | none => true
    | some scope => !scope.isEmpty && !scope.contains '%'
  let parts := Text.split (· == ':') address
  scopeOk && 3 ≤ parts.length && match expandLast parts with
    | some parts => parts.length ≤ 9 && areGroups parts
    | none => false

end SchemaTypes.IpAddress
