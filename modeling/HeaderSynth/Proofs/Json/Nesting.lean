import HeaderSynth.Json.Basic

/-!
# Nesting and readable values

Whether a value is readable depends on three things only: how deeply it nests, the size
of its numbers and whether its strings denote texts.  A value that has nothing but
strings that do and whole numbers of 64 bits is readable as far as it nests.
-/

namespace HeaderSynth

namespace Text

theorem nearestDouble_le (n : Nat) : nearestDouble n ≤ n + Nat.pow 2 n.log2 := by
  have hround : ∀ unit, 0 < unit → roundHalfEven n unit * unit ≤ n + unit := by
    intro unit hunit
    have hquotient : roundHalfEven n unit ≤ n / unit + 1 := by
      simp only [roundHalfEven]
      split
      · omega
      · split <;> omega
    calc
      roundHalfEven n unit * unit ≤ (n / unit + 1) * unit := Nat.mul_le_mul_right unit hquotient
      _ = n / unit * unit + unit := by rw [Nat.add_mul, Nat.one_mul]
      _ ≤ n + unit := Nat.add_le_add_right (Nat.div_mul_le_self n unit) unit
  calc
    nearestDouble n ≤ n + Nat.pow 2 (n.log2 - FloatLayout.double.fractionBits) :=
      hround _ (Nat.two_pow_pos _)
    _ ≤ n + Nat.pow 2 n.log2 :=
      Nat.add_le_add_left (Nat.pow_le_pow_right (by decide) (Nat.sub_le _ _)) n

/-- A whole number of 64 bits has a finite double. -/
theorem isFiniteStepwise_word {n : Nat} (hn : n < UInt64.size) : isFiniteStepwise n 0 = true := by
  have hleading : leadingWord n = (n, 0) := by
    rw [leadingWord, if_pos hn]
  have hone : nearestDouble (Nat.pow 10 0) = 1 := by decide
  have hfits : nearestDouble n < doubleLimit := by
    by_cases hzero : n = 0
    · subst n
      decide +kernel
    · have hlog : Nat.pow 2 n.log2 ≤ n := Nat.log2_self_le hzero
      have hsmall : 2 * UInt64.size < doubleLimit := by decide +kernel
      have hle := nearestDouble_le n
      omega
  simp only [isFiniteStepwise, hleading]
  show (n == 0 || (decide (0 ≤ maxDecimalPower) &&
    decide (nearestDouble n * nearestDouble (Nat.pow 10 0) < doubleLimit))) = true
  rw [hone, Nat.mul_one]
  simp [hfits]

end Text

namespace Json

mutual

/-- How many arrays and objects a value nests. -/
def depth : Json → Nat
  | .array items => itemsDepth items + 1
  | .object members => membersDepth members + 1
  | _ => 0

def itemsDepth : List Json → Nat
  | [] => 0
  | item :: items => max (depth item) (itemsDepth items)

def membersDepth : List (String × Json) → Nat
  | [] => 0
  | (_, value) :: members => max (depth value) (membersDepth members)

end

theorem depth_le_itemsDepth {items : List Json} {item : Json} (hitem : item ∈ items) :
    item.depth ≤ itemsDepth items := by
  induction items with
  | nil => contradiction
  | cons first items ih =>
      rw [itemsDepth]
      rcases List.mem_cons.mp hitem with rfl | hitem
      · exact Nat.le_max_left _ _
      · exact Nat.le_trans (ih hitem) (Nat.le_max_right _ _)

theorem depth_le_membersDepth {members : List (String × Json)} {member : String × Json}
    (hmember : member ∈ members) : member.2.depth ≤ membersDepth members := by
  induction members with
  | nil => contradiction
  | cons first members ih =>
      rw [membersDepth]
      rcases List.mem_cons.mp hmember with rfl | hmember
      · exact Nat.le_max_left _ _
      · exact Nat.le_trans (ih hmember) (Nat.le_max_right _ _)

theorem areReadable_iff (depth : Nat) (items : List Json) :
    areReadable depth items = true ↔ ∀ item ∈ items, item.isReadable depth = true := by
  induction items with
  | nil => simp [areReadable]
  | cons item items ih => simp [areReadable, ih]

theorem areReadableMembers_iff (depth : Nat) (members : List (String × Json)) :
    areReadableMembers depth members = true ↔
      ∀ member ∈ members, member.2.isReadable depth = true := by
  induction members with
  | nil => simp [areReadableMembers]
  | cons member members ih => simp [areReadableMembers, ih]

/-- Values whose numbers are whole and have 64 bits and whose strings denote texts. -/
inductive IsExact : Json → Prop where
  | null : IsExact .null
  | bool (value : Bool) : IsExact (.bool value)
  | integer {value : Int} (hvalue : value.natAbs < UInt64.size) : IsExact (.integer value)
  | string (text : String) : IsExact (.string text)
  | array {items : List Json} (hitems : ∀ item ∈ items, IsExact item) : IsExact (.array items)
  | object {members : List (String × Json)} (hmembers : ∀ member ∈ members, IsExact member.2) :
      IsExact (.object members)

/-- An exact value is readable as far as it nests. -/
theorem IsExact.isReadable {value : Json} (hexact : IsExact value) {bound : Nat}
    (hdepth : value.depth ≤ bound) : value.isReadable bound = true := by
  induction hexact generalizing bound with
  | null => rfl
  | bool value => rfl
  | integer hvalue => exact Text.isFiniteStepwise_word hvalue
  | string text => rfl
  | array hitems ih =>
      rw [depth] at hdepth
      rw [Json.isReadable, Bool.and_eq_true, areReadable_iff]
      refine ⟨by simp; omega, fun item hitem => ih item hitem ?_⟩
      have hle := depth_le_itemsDepth hitem
      omega
  | object hmembers ih =>
      rw [depth] at hdepth
      rw [Json.isReadable, Bool.and_eq_true, areReadableMembers_iff]
      refine ⟨by simp; omega, fun member hmember => ih member hmember ?_⟩
      have hle := depth_le_membersDepth hmember
      omega

end Json

end HeaderSynth
