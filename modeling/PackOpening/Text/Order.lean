import PackOpening.Text.CodePoint

/-!
The order of texts: by the numbers of their code points, and a text before its continuations.
-/
namespace PackOpening.Text

def inOrder (a b : Text) : Bool := !(b < a)

def sorted (texts : List Text) : List Text := texts.mergeSort inOrder

end PackOpening.Text
