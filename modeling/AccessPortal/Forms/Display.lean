/-!
# Display order

Things with an order key are displayed by ascending key, and those that share a key in the order in
which they are listed. `sortByOrder` is insertion from the right, which is what keeps ties in place:
a thing is put before the first one whose key is not smaller than its own.
-/

namespace AccessPortal

variable {α : Type}

/-- Puts `a` before the first element whose key is not smaller. -/
def insertByOrder (order : α → Int32) (a : α) : List α → List α
  | [] => [a]
  | b :: rest => if order a ≤ order b then a :: b :: rest else b :: insertByOrder order a rest

/-- The elements by ascending key, ties in list order. -/
def sortByOrder (order : α → Int32) : List α → List α
  | [] => []
  | a :: rest => insertByOrder order a (sortByOrder order rest)

/-- Replaces the first element that satisfies `p` by its image under `f`. -/
def updateFirst (p : α → Bool) (f : α → α) : List α → List α
  | [] => []
  | a :: rest => if p a then f a :: rest else a :: updateFirst p f rest

end AccessPortal
