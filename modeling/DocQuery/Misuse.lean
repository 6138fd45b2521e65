/-!
# Misuse of an operand

The ways in which a value cannot be used where it stands: a value of the wrong
type, a number out of range, a missing item. Every operation on values that can
refuse its operand refuses with one of these.
-/

namespace DocQuery

inductive Misuse where
  /-- The operation is not defined on values of this type. -/
  | wrongType
  /-- The type is right and the value is not. -/
  | badValue
  | tooLarge
  | noSuchItem
  | noSuchKey
  | noSuchMember
  | divisionByZero
  | inexactDecimal
  | decimalOverflow
  | invalidDecimal
  deriving DecidableEq, Repr

end DocQuery
