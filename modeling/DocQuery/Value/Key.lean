import DocQuery.Assoc
import DocQuery.Value.Basic

/-!
# Keys and entries

Which values can be the key of a map, which of them are one key, and the entries
of a map under assignment. Assigning to a key that is present keeps its place;
a new key goes to the end.
-/

namespace DocQuery

mutual
/-- Whether a value can be a key. A container can if it cannot change and holds
only values that can. -/
def Value.isKey : Value → Bool
  | .list _ | .map _ | .model .. | .decimal128 _ => false
  | .decimal d => !d.isSignaling
  | .tuple items => areKeys items
  | .expression conditions => conditionsAreKeys conditions
  | .null | .bool _ | .int _ | .float _ | .fraction _ | .complex .. | .str _ | .bytes _
  | .objectId _ | .uuid _ | .dateTime _ => true

def areKeys : List Value → Bool
  | [] => true
  | v :: rest => v.isKey && areKeys rest

def conditionsAreKeys : List Condition → Bool
  | [] => true
  | c :: rest => c.isKey && conditionsAreKeys rest

def Condition.isKey : Condition → Bool
  | .literal _ v => v.isKey
  | .operator _ _ operand => operand.isKey
  | .logical _ branches => branchesAreKeys branches

def branchesAreKeys : List (List Condition) → Bool
  | [] => true
  | conditions :: rest => conditionsAreKeys conditions && branchesAreKeys rest
end

mutual
/-- Whether two keys are one. Numbers are by their exact value, whatever their
types; tuples are item by item. -/
def Value.sameKey (x y : Value) : Bool :=
  match x, y with
  | .null, .null => true
  | .str s, .str t => s == t
  | .bytes a, .bytes b => a == b
  | .objectId a, .objectId b => a == b
  | .uuid a, .uuid b => a == b
  | .dateTime a, .dateTime b => a == b
  | .tuple a, .tuple b => sameKeys a b
  | .expression a, .expression b => sameConditions a b
  | x, y => match x.number?, y.number? with
    | some m, some n => m.same n
    | _, _ => false

def sameKeys : List Value → List Value → Bool
  | [], [] => true
  | x :: a, y :: b => x.sameKey y && sameKeys a b
  | _, _ => false

def sameConditions : List Condition → List Condition → Bool
  | [], [] => true
  | x :: a, y :: b => x.sameCondition y && sameConditions a b
  | _, _ => false

def Condition.sameCondition (x y : Condition) : Bool :=
  match x, y with
  | .literal f v, .literal g w => f == g && v.sameKey w
  | .operator f m v, .operator g n w => f == g && m == n && v.sameKey w
  | .logical m a, .logical n b => m == n && sameBranches a b
  | _, _ => false

def sameBranches : List (List Condition) → List (List Condition) → Bool
  | [], [] => true
  | x :: a, y :: b => sameConditions x y && sameBranches a b
  | _, _ => false
end

@[simp] theorem Value.sameKey_str (s t : String) :
    (Value.str s).sameKey (.str t) = (s == t) := by simp [Value.sameKey]

namespace Entries

def get? (entries : Entries) (key : Value) : Option Value :=
  (entries.find? fun (k, _) => k.sameKey key).map (·.2)

def put (entries : Entries) (key v : Value) : Entries :=
  match entries with
  | [] => [(key, v)]
  | (k, w) :: rest => if k.sameKey key then (k, v) :: rest else (k, w) :: put rest key v

def erase (entries : Entries) (key : Value) : Entries :=
  entries.filter fun (k, _) => !k.sameKey key

def putAll (entries : Entries) : List (Value × Value) → Except Misuse Entries
  | [] => .ok entries
  | (k, v) :: rest => if k.isKey then putAll (entries.put k v) rest else .error .wrongType

end Entries

namespace Value

def pair (v : Value) : Except Misuse (Value × Value) :=
  match v.items? with
  | some [x, y] => .ok (x, y)
  | some _ => .error .badValue
  | none => .error .wrongType

def putPairs (entries : Entries) : List Value → Except Misuse Entries
  | [] => .ok entries
  | item :: rest => do
    let (k, v) ← item.pair
    putPairs (← entries.putAll [(k, v)]) rest

/-- Whether a value has a field of its own that hides a member of that name. -/
def hides (member : String) : Value → Bool
  | model _ fields => (Assoc.lookup member fields).isSome
  | _ => false

/-- Why a value lacks a member: there is none, or a field of its own hides it. -/
def lacks (v : Value) (member : String) : Misuse :=
  if v.hides member then .wrongType else .noSuchMember

/-- The entries that a value stands for: those of a map, or the pairs it holds.
A value that hides its keys has none. -/
def entries (v : Value) : Except Misuse Entries :=
  match v with
  | map entries => .ok entries
  | v => if v.hides "keys" then .error .wrongType else do putPairs [] (← v.items)

end Value

end DocQuery
