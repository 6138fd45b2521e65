import DocQuery.Fault

/-!
# Log records

Operations note what they do in a log. A traced computation has a result, which
may be a fault, and the records noted until then; a fault does not undo them.
-/

namespace DocQuery

inductive LogSource where
  | compiler | registry | expression | queryBuilder | connection | dataSource
  deriving DecidableEq, Repr

inductive LogLevel where
  | debug | warning
  deriving DecidableEq, Repr

structure LogRecord where
  source : LogSource
  level : LogLevel
  message : String
  deriving DecidableEq, Repr

structure Traced (α : Type) where
  result : Except Fault α
  log : List LogRecord

namespace Traced

instance : Monad Traced where
  pure a := ⟨.ok a, []⟩
  bind x f := match x.result with
    | .ok a =>
      let y := f a
      ⟨y.result, x.log ++ y.log⟩
    | .error e => ⟨.error e, x.log⟩

def note (source : LogSource) (level : LogLevel) (message : String) : Traced Unit :=
  ⟨.ok (), [⟨source, level, message⟩]⟩

def fail (fault : Fault) : Traced α := ⟨.error fault, []⟩

def ofExcept (x : Except Fault α) : Traced α := ⟨x, []⟩

def ofOperand (x : Except Misuse α) : Traced α := ofExcept (orFault x)

@[simp] theorem result_pure (a : α) : (pure a : Traced α).result = .ok a := rfl

@[simp] theorem log_pure (a : α) : (pure a : Traced α).log = [] := rfl

@[simp] theorem result_bind (x : Traced α) (f : α → Traced β) :
    (x >>= f).result = x.result >>= fun a => (f a).result := by
  cases h : x.result <;> simp [bind, Except.bind, h]

theorem log_bind (x : Traced α) (f : α → Traced β) :
    (x >>= f).log = x.log ++ match x.result with
      | .ok a => (f a).log
      | .error _ => [] := by
  cases h : x.result <;> simp [bind, h]

@[simp] theorem result_note (source level message) : (note source level message).result = .ok () :=
  rfl

@[simp] theorem result_fail (fault : Fault) : (fail fault : Traced α).result = .error fault := rfl

@[simp] theorem result_ofExcept (x : Except Fault α) : (ofExcept x).result = x := rfl

@[simp] theorem log_ofExcept (x : Except Fault α) : (ofExcept x).log = [] := rfl

@[simp] theorem result_ofOperand (x : Except Misuse α) : (ofOperand x).result = orFault x := rfl

end Traced

end DocQuery
