import SchemaTypes.TypeExpr.Basic

set_option autoImplicit false

/-! # Equality of types

Two types are equal if they are built in the same way from equal parts; numeric literals are
compared by the number they denote.
-/

namespace SchemaTypes.TypeExpr

mutual

/-- The two types are equal. -/
def equal : TypeExpr → TypeExpr → Bool
  | .primitive a, .primitive b => a == b
  | .stringLiteral a, .stringLiteral b => a == b
  | .numericLiteral a, .numericLiteral b => a.same b
  | .array a, .array b => equal a b
  | .compound p as, .compound q bs => p == q && equalLists as bs
  | .imported a m, .imported b n => a == b && m == n
  | .columnType a i u, .columnType b j v => equal a b && equalOptions i j && equalOptions u v
  | .jsonColumnType a i u, .jsonColumnType b j v =>
    equal a b && equalOptions i j && equalOptions u v
  | .generated a, .generated b => equal a b
  | .generatedAlways a, .generatedAlways b => equal a b
  | _, _ => false

/-- The lists have equal types at equal positions. -/
def equalLists : List TypeExpr → List TypeExpr → Bool
  | [], [] => true
  | a :: as, b :: bs => equal a b && equalLists as bs
  | _, _ => false

/-- Both types are missing, or both are there and equal. -/
def equalOptions : Option TypeExpr → Option TypeExpr → Bool
  | none, none => true
  | some a, some b => equal a b
  | _, _ => false

end

end SchemaTypes.TypeExpr
