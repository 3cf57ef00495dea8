import Mathlib.Data.List.Nodup
import QueryDescriptor.Proofs.Text.Parts
import QueryDescriptor.Release

namespace QueryDescriptor.Release

variable {r : Release} {p q : Platform}

/-- The platforms in the order of the systems, and for one system in that of the architectures. -/
def Precedes (r : Release) (p q : Platform) : Prop :=
  r.systems.idxOf p.system < r.systems.idxOf q.system ∨
    p.system = q.system ∧
      r.architectures.idxOf p.architecture < r.architectures.idxOf q.architecture

theorem Precedes.ne (h : r.Precedes p q) : p ≠ q := by
  rintro rfl
  rcases h with h | ⟨_, h⟩
  · exact Nat.lt_irrefl _ h
  · exact Nat.lt_irrefl _ h

end QueryDescriptor.Release
