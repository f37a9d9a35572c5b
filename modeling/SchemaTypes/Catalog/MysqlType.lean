import SchemaTypes.Catalog.Cell
import SchemaTypes.Text.Split

set_option autoImplicit false

/-! # Column types of MySQL

The parts of a column type such as `int(10) unsigned` or `enum('a','b')`.
-/

namespace SchemaTypes.Mysql

/-- The data types with a list of members. -/
def isEnumeration (dataType : Cell) : Bool := dataType = .text "enum" || dataType = .text "set"

/-- A column type without trailing attributes, such as `int(10)` for `int(10) unsigned`: what stands
before the first space. -/
def stripAttributes (columnType : String) : String :=
  String.ofList (columnType.toList.takeWhile (· != ' '))

/-- The list of literals in the type of an enumeration: what stands after the first opening and
before the last closing parenthesis. None if one of them is missing. -/
def memberList? (columnType : String) : Option String := do
  let s := columnType.toList
  let (_, some afterOpen) := Text.cutFirst '(' s | none
  let (some beforeClose, _) := Text.cutLast ')' s | none
  let start := s.length - afterOpen.length
  return String.ofList (afterOpen.take (beforeClose.length - start))

/-- The statement that selects the members of an enumeration, so that the database itself reads the
literals. -/
def memberQuery? (columnType : String) : Option String :=
  (memberList? columnType).map ("SELECT " ++ ·)

end SchemaTypes.Mysql
