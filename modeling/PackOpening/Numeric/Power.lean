/-!
Powers of two and of ten as whole numbers.
-/
namespace PackOpening.Numeric

def twoTo (n : Nat) : Nat := Nat.pow 2 n

def tenTo (n : Nat) : Nat := Nat.pow 10 n

end PackOpening.Numeric
