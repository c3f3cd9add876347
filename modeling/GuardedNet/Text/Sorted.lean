/-!
# Texts in order

Texts are ordered by their code points from left to right.
-/

namespace GuardedNet.Text

/-- Whether a text does not come after another. -/
def isSortedPair (a b : String) : Bool := !decide (b < a)

/-- Texts in increasing order. -/
def sorted (texts : List String) : List String := texts.mergeSort isSortedPair

/-- Whether a sequence of texts does not come after another, decided by the first texts that
differ. -/
def isSortedListPair : List String → List String → Bool
  | [], _ => true
  | _ :: _, [] => false
  | a :: as, b :: bs => if a = b then isSortedListPair as bs else decide (a < b)

end GuardedNet.Text
