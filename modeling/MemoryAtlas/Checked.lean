/-!
Results that come with warnings, whether they are good or bad.
-/

namespace MemoryAtlas

/-- The warnings are those given before the result was known, in order. -/
structure Checked (ω ε α : Type) where
  warnings : List ω
  result : Except ε α

namespace Checked

variable {ω ε α β : Type}

def ok (a : α) : Checked ω ε α := ⟨[], .ok a⟩

def error (e : ε) : Checked ω ε α := ⟨[], .error e⟩

def ofExcept (result : Except ε α) : Checked ω ε α := ⟨[], result⟩

def warn (warnings : List ω) (c : Checked ω ε α) : Checked ω ε α :=
  { c with warnings := warnings ++ c.warnings }

/-- What comes next is only asked for after a good result. -/
def andThen (c : Checked ω ε α) (next : α → Checked ω ε β) : Checked ω ε β :=
  match c.result with
  | .ok a => (next a).warn c.warnings
  | .error e => ⟨c.warnings, .error e⟩

instance : Monad (Checked ω ε) where
  pure := ok
  bind := andThen

end Checked

end MemoryAtlas
