import HeaderSynth.Reflection.Decoding
import HeaderSynth.Reflection.Encoding
import HeaderSynth.Proofs.Json.Nesting

/-!
# Records are decoded from what they are encoded to

A record is encoded as members in a fixed order, of which some may be missing.  Decoding
looks every field up by its name.  The lemmas here say what such a look-up finds, once for
each way in which a field can be written, so that the statement about a record is the list
of its fields.
-/

namespace HeaderSynth

namespace Json

/-! ## Members of a record -/

namespace Record

theorem distinct_iff_nodup (names : List String) : distinct names = true ↔ names.Nodup := by
  induction names with
  | nil => simp [distinct]
  | cons name names ih => simp [distinct, ih]

/-- Members with known names, each at most once and in their order, are taken as they are. -/
theorem ofJson?_object {names : List String} {members : List (String × Json)}
    (hnames : names.Nodup) (hkeys : (members.map Prod.fst).Sublist names) :
    ofJson? names (.object members) = some ⟨false, members⟩ := by
  have hknown : members.filter (fun member => names.contains member.1) = members := by
    rw [List.filter_eq_self]
    intro member hmember
    have hmem := hkeys.subset (List.mem_map_of_mem hmember)
    simpa using hmem
  have hdistinct : distinct (members.map Prod.fst) = true :=
    (distinct_iff_nodup _).mpr (hkeys.nodup hnames)
  simp only [ofJson?, hknown, hdistinct, if_true]

variable {α : Type} {members : List (String × Json)} {name : String}

theorem required_eq_some {decode : Json → Option α} {content : Json} {value : α}
    (hmember : members.lookup name = some content) (hdecode : decode content = some value) :
    required ⟨false, members⟩ name decode = some value := by
  simp [required, get?, hmember, hdecode]

theorem withDefault_eq_some {decode : Json → Option α} {content : Json} {default value : α}
    (hmember : members.lookup name = some content) (hdecode : decode content = some value) :
    withDefault ⟨false, members⟩ name default decode = some value := by
  simp [withDefault, get?, hmember, hdecode]

/-- A member that is left out when there is no value. -/
theorem optional_eq_some {decode : Json → Option α} {encode : α → Json} (value : Option α)
    (hmember : members.lookup name = value.map encode)
    (hdecode : ∀ content, decode (encode content) = some content)
    (hnull : ∀ content, encode content ≠ .null) :
    optional ⟨false, members⟩ name decode = some value := by
  cases value with
  | none => simp [optional, withDefault, get?, hmember]
  | some content =>
      have hvalue : asNullable? decode (encode content) = some (some content) := by
        rw [asNullable?.eq_2 decode (encode content) (hnull content), hdecode]
        rfl
      simp [optional, withDefault, get?, hmember, hvalue]

/-- A member that is `null` when there is no value. -/
theorem nullable_eq_some {decode : Json → Option α} {encode : α → Json} (value : Option α)
    (hmember : members.lookup name = some (.ofOption encode value))
    (hdecode : ∀ content, decode (encode content) = some content)
    (hnull : ∀ content, encode content ≠ .null) :
    nullable ⟨false, members⟩ name decode = some value := by
  cases value with
  | none => simp [nullable, optional, withDefault, get?, hmember, Json.ofOption, asNullable?]
  | some content =>
      have hvalue : asNullable? decode (encode content) = some (some content) := by
        rw [asNullable?.eq_2 decode (encode content) (hnull content), hdecode]
        rfl
      simp [nullable, optional, withDefault, get?, hmember, Json.ofOption, hvalue]

end Record

section

variable {α : Type} (key : String) (encode : α → Json) (value : Option α)

@[simp]
theorem lookup_optionalMember_append (name : String) (rest : List (String × Json)) :
    (optionalMember key encode value ++ rest).lookup name =
      if name = key then (value.map encode).or (rest.lookup name) else rest.lookup name := by
  cases value with
  | none => simp [optionalMember]
  | some content =>
      by_cases hname : name = key
      · simp [optionalMember, hname]
      · simp [optionalMember, List.lookup_cons, hname, beq_eq_false_iff_ne.mpr hname]

@[simp]
theorem lookup_optionalMember (name : String) :
    (optionalMember key encode value).lookup name =
      if name = key then value.map encode else none := by
  have hlookup := lookup_optionalMember_append key encode value name []
  simpa using hlookup

/-- The keys of a member that may be missing. -/
theorem keys_optionalMember :
    ((optionalMember key encode value).map Prod.fst).Sublist [key] := by
  cases value <;> simp [optionalMember]

end

/-- The tag in front of a record is taken out of it. -/
theorem Tagged.ofJson?_cons {key : String} {tag : Json} {members : List (String × Json)}
    (hkey : key ∉ members.map Prod.fst) :
    Tagged.ofJson? key (.object ((key, tag) :: members)) = some ⟨tag, .object members⟩ := by
  have hother : ∀ member ∈ members, member.1 ≠ key := by
    rintro member hmember rfl
    exact hkey (List.mem_map_of_mem hmember)
  have hnone : members.filter (·.1 = key) = [] := by
    simpa [List.filter_eq_nil_iff] using hother
  have hall : members.filter (·.1 ≠ key) = members := by
    simpa [List.filter_eq_self] using hother
  simp only [Tagged.ofJson?, List.filter_cons_of_pos, decide_true, hnone]
  rw [List.filter_cons_of_neg (by simp), hall]

theorem asList?_array {α : Type} {decode : Json → Option α} {encode : α → Json}
    {items : List α} (hdecode : ∀ item ∈ items, decode (encode item) = some item) :
    asList? decode (.array (items.map encode)) = some items := by
  rw [asList?]
  induction items with
  | nil => rfl
  | cons item items ih =>
      have hfirst := hdecode item (by simp)
      have hrest := ih fun other hother => hdecode other (by simp [hother])
      simp [hfirst, hrest]

/-! ## Numbers -/

theorem asNat?_ofNat {limit n : Nat} (hn : n < limit) : asNat? limit (.ofNat n) = some n := by
  show (if n < limit then some n else none) = some n
  rw [if_pos hn]

theorem asUInt8?_ofNat (n : UInt8) : asUInt8? (.ofNat n.toNat) = some n := by
  simp [asUInt8?, asNat?_ofNat n.toNat_lt_size]

theorem asUInt32?_ofNat (n : UInt32) : asUInt32? (.ofNat n.toNat) = some n := by
  simp [asUInt32?, asNat?_ofNat n.toNat_lt_size]

theorem asUInt64?_ofNat (n : UInt64) : asUInt64? (.ofNat n.toNat) = some n := by
  simp [asUInt64?, asNat?_ofNat n.toNat_lt_size]

theorem asInt64?_toInt (n : Int64) : asInt64? (.integer n.toInt) = some n := by
  rw [asInt64?, if_pos ⟨n.minValue_le_toInt, n.toInt_le⟩, Int64.ofInt_toInt]

theorem IsExact.ofNat {n : Nat} (hn : n < UInt64.size) : IsExact (.ofNat n) :=
  .integer hn

end Json

open Json (IsExact)

theorem ObjectId.ofJson?_toJson (id : ObjectId) : ObjectId.ofJson? id.toJson = some id := by
  rw [ObjectId.ofJson?, ObjectId.toJson, ObjectId.index, Json.asUInt32?_ofNat]
  rfl

theorem ObjectId.toJson_ne_null (id : ObjectId) : id.toJson ≠ .null := by
  simp [ObjectId.toJson, Json.ofNat]

theorem ObjectId.isExact (id : ObjectId) : IsExact id.toJson :=
  .ofNat (Nat.lt_trans id.number.toNat_lt_size (by decide))

theorem Flags.ofJson?_toJson {kind : FlagKind} (flags : Flags kind) :
    Flags.ofJson? flags.toJson = some flags := by
  have hbits : flags.toNat < Nat.pow 2 kind.width := flags.bits.isLt
  rw [Flags.ofJson?, Flags.toJson, Json.asNat?_ofNat hbits]
  simp [Flags.ofNat, Flags.toNat]

theorem Flags.isExact {kind : FlagKind} (flags : Flags kind) : IsExact flags.toJson := by
  have hbits : flags.toNat < 2 ^ kind.width := flags.bits.isLt
  have hwidth : (2 : Nat) ^ kind.width ≤ UInt64.size := by
    cases kind <;> decide
  exact .ofNat (Nat.lt_of_lt_of_le hbits hwidth)

end HeaderSynth
