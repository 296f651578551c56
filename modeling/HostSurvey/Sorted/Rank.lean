/-!
# Orders by rank

A type whose values have different ranks is ordered by them.
-/

namespace HostSurvey

open Std

class Ranked (α : Type) where
  rank : α → Nat
  eq_of_rank_eq : ∀ a b, rank a = rank b → a = b

namespace Ranked

variable {α : Type} [Ranked α]

def compareRank (a b : α) : Ordering := compare (rank a) (rank b)

instance : TransCmp (compareRank (α := α)) where
  eq_swap := (inferInstance : OrientedOrd Nat).eq_swap
  isLE_trans := (inferInstance : TransOrd Nat).isLE_trans

instance : LawfulEqCmp (compareRank (α := α)) where
  compare_self := (inferInstance : ReflOrd Nat).compare_self
  eq_of_compare h := eq_of_rank_eq _ _ (LawfulEqCmp.eq_of_compare h)

end Ranked

end HostSurvey
