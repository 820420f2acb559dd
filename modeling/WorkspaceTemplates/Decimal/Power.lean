/-
  WorkspaceTemplates/Decimal/Power.lean
  =====================================
  **Powers of the two bases.**

  Binary and decimal numerals are scaled by whole powers of two and of ten.
-/

namespace WorkspaceTemplates.Decimal

def twoPow (n : Nat) : Nat := Nat.pow 2 n

def tenPow (n : Nat) : Nat := Nat.pow 10 n

end WorkspaceTemplates.Decimal
