import HeaderSynth.Sorted.Order

/-!
# Object ids

An object is named by its position in the graph it belongs to.
-/

namespace HeaderSynth

/-- The position of an object in its graph. -/
structure ObjectId where
  number : UInt32
deriving DecidableEq, Repr, Inhabited

namespace ObjectId

def index (id : ObjectId) : Nat :=
  id.number.toNat

def ofIndex (index : Nat) : ObjectId :=
  ⟨UInt32.ofNat index⟩

/-- The form in which messages name an object. -/
def render (id : ObjectId) : String :=
  "#" ++ toString id.index

theorem index_ofIndex {index : Nat} (h : index < UInt32.size) : (ofIndex index).index = index :=
  UInt32.toNat_ofNat_of_lt h

theorem index_injective {a b : ObjectId} (h : a.index = b.index) : a = b := by
  cases a
  cases b
  exact congrArg ObjectId.mk (UInt32.toNat_inj.mp h)

end ObjectId

instance : Ordered ObjectId where
  before a b := decide (a.index < b.index)
  irrefl _ := decide_eq_false (Nat.lt_irrefl _)
  trans _ _ _ hab hbc :=
    decide_eq_true (Nat.lt_trans (of_decide_eq_true hab) (of_decide_eq_true hbc))
  total _ _ hab hba :=
    ObjectId.index_injective (Nat.le_antisymm (Nat.le_of_not_lt (of_decide_eq_false hba))
      (Nat.le_of_not_lt (of_decide_eq_false hab)))

end HeaderSynth
