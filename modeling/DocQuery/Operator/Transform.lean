import DocQuery.Assoc
import DocQuery.Fault
import DocQuery.Text.Pattern
import DocQuery.Text.Integer
import DocQuery.Value.Key
import DocQuery.Value.Kind

/-!
# Operator transforms

A transform builds what a field is compared with from the operand of an
operator. Every comparison operator has a standard one. An operand of a kind that
an operator is not made for stands for itself.
-/

namespace DocQuery

structure CompilerOptions where
  /-- Refuse unknown operators and malformed clauses. -/
  strict : Bool
  /-- The flags of every pattern. -/
  regexOptions : String
  /-- Match the operands of text operators literally. -/
  escapeRegex : Bool
  deriving DecidableEq, Repr

def CompilerOptions.standard : CompilerOptions := ⟨false, "i", false⟩

/-- What a transform does with the kind of an operand and the operand. -/
abbrev Rule := CompilerOptions → Kind → Value → Except Fault Value

structure Transform where
  name : String
  run : Rule

/-- Whether a value asks for a field to be present, as a number: texts count by
their leading integer, doubles by their integer part, and what is no number is 0. -/
def existsFlag : Value → Except Misuse Int
  | .bool b => .ok (if b then 1 else 0)
  | .int n => .ok n
  | .float x => .ok (x.truncate.toOption.getD 0)
  | .str s => leadingInteger s
  | _ => .ok 0

namespace Pattern

def ofOperand (options : CompilerOptions) (v : Value) : Except Misuse Value :=
  if options.escapeRegex then
    match v with
    | .str s => .ok (.str (escapePattern s))
    | .bytes bs =>
      .ok (.bytes ((escapeChars (bs.map fun b => Char.ofNat b.toNat)).map fun c =>
        UInt8.ofNat c.toNat))
    | _ => .error .wrongType
  else .ok v

/-- A pattern with text before and after it; only a text can be extended. -/
def between (before : String) (pattern : Value) (after : String) : Except Misuse Value :=
  match pattern with
  | .str s => .ok (.str (before ++ s ++ after))
  | _ => .error .wrongType

def condition (options : CompilerOptions) (pattern : Value) : Value :=
  .ofFields [("$regex", pattern), ("$options", .str options.regexOptions)]

end Pattern

namespace Transform

def equality : Rule := fun _ _ v => .ok v

def comparison (key : String) : Rule := fun _ _ v => .ok (.single key v)

def membership : Rule := fun _ kind v =>
  if kind = .array then do pure (.single "$in" (.list (← orFault v.items)))
  else .ok v

def range : Rule := fun options kind v =>
  let other : Except Fault Value :=
    if options.strict then .error (Fault.malformed (.notRange v) none).worded else .ok v
  if kind ≠ .array then other
  else match v.size? with
    | none => .error (.misuse .wrongType)
    | some 2 => match v.items? with
      | some [low, high] => .ok (.ofFields [("$gte", low), ("$lte", high)])
      | _ => .error (.misuse .wrongType)
    | some _ => other

def presence : Rule := fun _ _ v => do
  pure (.single "$exists" (.int (← orFault (existsFlag v))))

def pattern (build : Value → Except Misuse Value) (wrap : Value → Value) : Rule :=
  fun options kind v =>
    if kind = .string then
      orFault do
        let p ← build (← Pattern.ofOperand options v)
        pure (wrap (Pattern.condition options p))
    else .ok v

/-- What the operators build when nothing else is registered; combinators
compare nothing. -/
def standardRule? : Operator → Option Rule
  | .eq => some equality
  | .ne => some (comparison "$ne")
  | .lt => some (comparison "$lt")
  | .le => some (comparison "$lte")
  | .gt => some (comparison "$gt")
  | .ge => some (comparison "$gte")
  | .oneOf => some membership
  | .between => some range
  | .present => some presence
  | .contains => some (pattern .ok id)
  | .notContains => some (pattern .ok (.single "$not"))
  | .startsWith => some (pattern (Pattern.between "^" · "") id)
  | .endsWith => some (pattern (Pattern.between "" · "$") id)
  | .and | .or => none

def standard? (op : Operator) : Option Transform :=
  (standardRule? op).map (⟨op.name, ·⟩)

/-- A transform that only records what it is given, the operand under a key of
its own. -/
def recording (name key : String) : Transform :=
  ⟨name, fun options kind v =>
    .ok (.ofFields (Assoc.assignAll []
      [(key, v), ("kind", .str kind.name), ("flags", .str options.regexOptions)]))⟩

end Transform

end DocQuery
