import HeaderSynth.Proofs.Json.RoundTrip
import HeaderSynth.Proofs.Reflection.Fields
import HeaderSynth.Proofs.Reflection.NameIndex
import HeaderSynth.Proofs.Reflection.Readable

/-!
# Snapshots are read back

A valid graph whose snapshot does not nest too deeply is read back from the text that it
is written to, object by object.  Its objects can then be found by package and name as
before, the first one winning.
-/

namespace HeaderSynth

open Json (Record Tagged)

/-! ## Payloads -/

theorem EnumForm.decode_tag (nested : Bool) (form : EnumForm) :
    EnumForm.decode nested (.string form.tag) = some form := by
  cases form <;> rfl

theorem EnumEntry.ofJson?_toJson (entry : EnumEntry) :
    EnumEntry.ofJson? entry.toJson = some entry := by
  show (Json.asInt64? (.integer entry.value.toInt)).bind
    (fun value => some (EnumEntry.mk entry.name value)) = _
  rw [Json.asInt64?_toInt]
  rfl

theorem ClassInfo.keys_members (info : ClassInfo) :
    (info.members.map Prod.fst).Sublist ["flags", "super_class", "within", "config_name",
      "interfaces", "fields", "functions", "default_object"] := by
  have hsuper := Json.keys_optionalMember "super_class" ObjectId.toJson info.superClass
  have hwithin := Json.keys_optionalMember "within" ObjectId.toJson info.within
  have hdefault := Json.keys_optionalMember "default_object" Instance.toJson info.defaultObject
  simp only [ClassInfo.members, List.map_append]
  exact ((((List.Sublist.refl ["flags"]).append hsuper).append hwithin).append
    (List.Sublist.refl ["config_name", "interfaces", "fields", "functions"])).append hdefault

theorem ClassInfo.ofJson?_members (info : ClassInfo) :
    ClassInfo.ofJson? (.object info.members) = some info := by
  have hflags : Record.required ⟨false, info.members⟩ "flags" Flags.ofJson? = some info.flags :=
    Record.required_eq_some rfl (Flags.ofJson?_toJson info.flags)
  have hsuper : Record.optional ⟨false, info.members⟩ "super_class" ObjectId.ofJson? =
      some info.superClass := by
    apply Record.optional_eq_some _ _ ObjectId.ofJson?_toJson ObjectId.toJson_ne_null
    simp [ClassInfo.members, List.lookup_cons]
  have hwithin : Record.optional ⟨false, info.members⟩ "within" ObjectId.ofJson? =
      some info.within := by
    apply Record.optional_eq_some _ _ ObjectId.ofJson?_toJson ObjectId.toJson_ne_null
    simp [ClassInfo.members, List.lookup_cons]
  have hconfig : Record.withDefault ⟨false, info.members⟩ "config_name" "" Json.asText? =
      some info.configName := by
    refine Record.withDefault_eq_some (show _ = some (Json.string info.configName) from ?_) rfl
    simp [ClassInfo.members, List.lookup_cons]
  have hinterfaces : Record.withDefault ⟨false, info.members⟩ "interfaces" []
      (Json.asList? ObjectId.ofJson?) = some info.interfaces := by
    apply Record.withDefault_eq_some _ (Json.asList?_array fun id _ => ObjectId.ofJson?_toJson id)
    simp [ClassInfo.members, List.lookup_cons]
  have hfields : Record.withDefault ⟨false, info.members⟩ "fields" []
      (Json.asList? (Field.decode true)) = some info.fields := by
    apply Record.withDefault_eq_some _ (Json.asList?_array fun field _ => Field.decode_toJson true field)
    simp [ClassInfo.members, List.lookup_cons]
  have hfunctions : Record.withDefault ⟨false, info.members⟩ "functions" []
      (Json.asList? ObjectId.ofJson?) = some info.functions := by
    apply Record.withDefault_eq_some _ (Json.asList?_array fun id _ => ObjectId.ofJson?_toJson id)
    simp [ClassInfo.members, List.lookup_cons]
  have hdefault : Record.optional ⟨false, info.members⟩ "default_object" (Instance.decode true) =
      some info.defaultObject := by
    apply Record.optional_eq_some _ _ (Instance.decode_toJson true) Instance.toJson_ne_null
    simp [ClassInfo.members, List.lookup_cons]
  rw [ClassInfo.ofJson?, Record.ofJson?_object (by decide) info.keys_members]
  simp [hflags, hsuper, hwithin, hconfig, hinterfaces, hfields, hfunctions, hdefault]

theorem StructInfo.keys_members (info : StructInfo) :
    (info.members.map Prod.fst).Sublist
      ["flags", "super_struct", "fields", "size", "default_instance"] := by
  have hsuper := Json.keys_optionalMember "super_struct" ObjectId.toJson info.superStruct
  have hdefault := Json.keys_optionalMember "default_instance" Instance.toJson info.defaultInstance
  simp only [StructInfo.members, List.map_append]
  exact (((List.Sublist.refl ["flags"]).append hsuper).append
    (List.Sublist.refl ["fields", "size"])).append hdefault

theorem StructInfo.ofJson?_members (info : StructInfo) :
    StructInfo.ofJson? (.object info.members) = some info := by
  have hflags : Record.required ⟨false, info.members⟩ "flags" Flags.ofJson? = some info.flags :=
    Record.required_eq_some rfl (Flags.ofJson?_toJson info.flags)
  have hsuper : Record.optional ⟨false, info.members⟩ "super_struct" ObjectId.ofJson? =
      some info.superStruct := by
    apply Record.optional_eq_some _ _ ObjectId.ofJson?_toJson ObjectId.toJson_ne_null
    simp [StructInfo.members, List.lookup_cons]
  have hfields : Record.withDefault ⟨false, info.members⟩ "fields" []
      (Json.asList? (Field.decode true)) = some info.fields := by
    apply Record.withDefault_eq_some _
      (Json.asList?_array fun field _ => Field.decode_toJson true field)
    simp [StructInfo.members, List.lookup_cons]
  have hsize : Record.withDefault ⟨false, info.members⟩ "size" 0 Json.asUInt64? =
      some info.size := by
    apply Record.withDefault_eq_some _ (Json.asUInt64?_ofNat info.size)
    simp [StructInfo.members, List.lookup_cons]
  have hdefault : Record.optional ⟨false, info.members⟩ "default_instance"
      (Instance.decode true) = some info.defaultInstance := by
    apply Record.optional_eq_some _ _ (Instance.decode_toJson true) Instance.toJson_ne_null
    simp [StructInfo.members, List.lookup_cons]
  rw [StructInfo.ofJson?, Record.ofJson?_object (by decide) info.keys_members]
  simp [hflags, hsuper, hfields, hsize, hdefault]

theorem EnumInfo.ofJson?_members (info : EnumInfo) :
    EnumInfo.ofJson? (.object info.members) = some info := by
  have hrecord : Record.ofJson? ["form", "flags", "entries"] (.object info.members) =
      some ⟨false, info.members⟩ :=
    Record.ofJson?_object (by decide) (List.Sublist.refl _)
  have hform : Record.withDefault ⟨false, info.members⟩ "form" .regular (EnumForm.decode true) =
      some info.form :=
    Record.withDefault_eq_some rfl (EnumForm.decode_tag true info.form)
  have hflags : Record.withDefault ⟨false, info.members⟩ "flags" .none Flags.ofJson? =
      some info.flags :=
    Record.withDefault_eq_some rfl (Flags.ofJson?_toJson info.flags)
  have hentries : Record.withDefault ⟨false, info.members⟩ "entries" []
      (Json.asList? EnumEntry.ofJson?) = some info.entries :=
    Record.withDefault_eq_some rfl (Json.asList?_array fun entry _ => entry.ofJson?_toJson)
  rw [EnumInfo.ofJson?, hrecord]
  simp [hform, hflags, hentries]

theorem MethodInfo.ofJson?_members (info : MethodInfo) :
    MethodInfo.ofJson? (.object info.members) = some info := by
  have hrecord : Record.ofJson? ["flags", "params", "sparse"] (.object info.members) =
      some ⟨false, info.members⟩ :=
    Record.ofJson?_object (by decide) (List.Sublist.refl _)
  have hflags : Record.required ⟨false, info.members⟩ "flags" Flags.ofJson? = some info.flags :=
    Record.required_eq_some rfl (Flags.ofJson?_toJson info.flags)
  have hparams : Record.withDefault ⟨false, info.members⟩ "params" []
      (Json.asList? (Field.decode true)) = some info.params :=
    Record.withDefault_eq_some rfl
      (Json.asList?_array fun field _ => Field.decode_toJson true field)
  have hsparse : Record.withDefault ⟨false, info.members⟩ "sparse" false Json.asBool? =
      some info.sparse :=
    Record.withDefault_eq_some rfl rfl
  rw [MethodInfo.ofJson?, hrecord]
  simp [hflags, hparams, hsparse]

theorem ObjectKind.ofJson?_toJson {kind : ObjectKind}
    (hdepth : kind.toJson.depth ≤ ObjectKind.maxDepth) :
    ObjectKind.ofJson? kind.toJson = some kind := by
  have hreadable := kind.isExact.isReadable hdepth
  rw [ObjectKind.ofJson?, hreadable]
  simp only [Bool.not_true, Bool.false_eq_true, if_false]
  cases kind with
  | classType info =>
      have hkind : "kind" ∉ info.members.map Prod.fst :=
        fun h => absurd (info.keys_members.subset h) (by decide)
      rw [ObjectKind.toJson, Tagged.ofJson?_cons hkind]
      show (ClassInfo.ofJson? (.object info.members)).map ObjectKind.classType = _
      rw [ClassInfo.ofJson?_members]
      rfl
  | interfaceType info =>
      have hkind : "kind" ∉ info.members.map Prod.fst :=
        fun h => absurd (info.keys_members.subset h) (by decide)
      rw [ObjectKind.toJson, Tagged.ofJson?_cons hkind]
      show (ClassInfo.ofJson? (.object info.members)).map ObjectKind.interfaceType = _
      rw [ClassInfo.ofJson?_members]
      rfl
  | structType info =>
      have hkind : "kind" ∉ info.members.map Prod.fst :=
        fun h => absurd (info.keys_members.subset h) (by decide)
      rw [ObjectKind.toJson, Tagged.ofJson?_cons hkind]
      show (StructInfo.ofJson? (.object info.members)).map ObjectKind.structType = _
      rw [StructInfo.ofJson?_members]
      rfl
  | enumType info =>
      rw [ObjectKind.toJson, Tagged.ofJson?_cons (by simp [EnumInfo.members])]
      show (EnumInfo.ofJson? (.object info.members)).map ObjectKind.enumType = _
      rw [EnumInfo.ofJson?_members]
      rfl
  | function info =>
      rw [ObjectKind.toJson, Tagged.ofJson?_cons (by simp [MethodInfo.members])]
      show (MethodInfo.ofJson? (.object info.members)).map ObjectKind.function = _
      rw [MethodInfo.ofJson?_members]
      rfl
  | instanceOf type =>
      rw [ObjectKind.toJson, Tagged.ofJson?_cons (by simp)]
      show (Record.nullable ⟨false, [("class", .ofOption ObjectId.toJson type)]⟩ "class"
        ObjectId.ofJson?).map ObjectKind.instanceOf = _
      rw [Record.nullable_eq_some _ rfl ObjectId.ofJson?_toJson ObjectId.toJson_ne_null]
      rfl

/-! ## Objects and graphs -/

/-- The members of an object. -/
def Object.members (object : Object) : List (String × Json) :=
  [("name", .string object.name), ("package", .string object.package)] ++
    Json.optionalMember "outer" ObjectId.toJson object.outer ++
    [("object_flags", object.objectFlags.toJson), ("kind", object.kind.toJson)]

theorem Object.keys_members (object : Object) :
    (object.members.map Prod.fst).Sublist ["name", "package", "outer", "object_flags", "kind"] := by
  have houter := Json.keys_optionalMember "outer" ObjectId.toJson object.outer
  simp only [Object.members, List.map_append]
  exact ((List.Sublist.refl ["name", "package"]).append houter).append
    (List.Sublist.refl ["object_flags", "kind"])

theorem Object.ofJson?_toJson {object : Object}
    (hdepth : object.kind.toJson.depth ≤ ObjectKind.maxDepth) :
    Object.ofJson? object.toJson = some object := by
  have hname : Record.required ⟨false, object.members⟩ "name" Json.asText? = some object.name :=
    Record.required_eq_some rfl rfl
  have hpackage : Record.required ⟨false, object.members⟩ "package" Json.asText? =
      some object.package :=
    Record.required_eq_some rfl rfl
  have houter : Record.optional ⟨false, object.members⟩ "outer" ObjectId.ofJson? =
      some object.outer := by
    apply Record.optional_eq_some _ _ ObjectId.ofJson?_toJson ObjectId.toJson_ne_null
    simp [Object.members, List.lookup_cons]
  have hflags : Record.withDefault ⟨false, object.members⟩ "object_flags" .none Flags.ofJson? =
      some object.objectFlags := by
    apply Record.withDefault_eq_some _ (Flags.ofJson?_toJson object.objectFlags)
    simp [Object.members, List.lookup_cons]
  have hkind : Record.required ⟨false, object.members⟩ "kind" ObjectKind.ofJson? =
      some object.kind := by
    apply Record.required_eq_some _ (ObjectKind.ofJson?_toJson hdepth)
    simp [Object.members, List.lookup_cons]
  rw [Object.ofJson?, show object.toJson = .object object.members from rfl,
    Record.ofJson?_object (by decide) object.keys_members]
  simp [hname, hpackage, houter, hflags, hkind]

/-- Three arrays and objects stand around every payload of a snapshot. -/
theorem Graph.depth_kind_le (graph : Graph) {object : Object} (hobject : object ∈ graph.objects) :
    object.kind.toJson.depth + 3 ≤ graph.toJson.depth := by
  have hkind : object.kind.toJson.depth ≤ Json.membersDepth object.members :=
    Json.depth_le_membersDepth
      (show ("kind", object.kind.toJson) ∈ object.members by simp [Object.members])
  have hitem : object.toJson.depth ≤ Json.itemsDepth (graph.objects.toList.map Object.toJson) :=
    Json.depth_le_itemsDepth (List.mem_map_of_mem (Array.mem_toList_iff.mpr hobject))
  have hdepth : object.toJson.depth = Json.membersDepth object.members + 1 := rfl
  simp only [Graph.toJson, Json.depth, Json.membersDepth]
  omega

theorem Graph.ofJson?_toJson {graph : Graph} (hdepth : graph.toJson.depth < 128) :
    Graph.ofJson? graph.toJson = some graph := by
  have hobjects : Json.asList? Object.ofJson?
      (.array (graph.objects.toList.map Object.toJson)) = some graph.objects.toList := by
    apply Json.asList?_array
    intro object hobject
    apply Object.ofJson?_toJson
    have hle := graph.depth_kind_le (Array.mem_toList_iff.mp hobject)
    rw [ObjectKind.maxDepth]
    omega
  show (Json.asList? Object.ofJson? (.array (graph.objects.toList.map Object.toJson))).bind
    (fun objects => some (Graph.mk objects.toArray)) = _
  rw [hobjects]
  rfl

/-- Writing a snapshot of a valid graph and reading it back gives the same objects in the same
order, and a package and a name lead to the first object that has them, whatever the index held
when the snapshot was written.  The snapshot must stay below the nesting that a reader accepts. -/
theorem Snapshot.ofText_toText (snapshot : Snapshot) (hsize : snapshot.graph.size < UInt32.size)
    (hvalid : snapshot.graph.fault? = none) (hdepth : snapshot.graph.toJson.depth < 128) :
    ∃ loaded, Snapshot.ofText snapshot.toText = .ok loaded ∧
      loaded.graph.objects = snapshot.graph.objects ∧
      ∀ package name,
        (∀ id, loaded.find? package name = some id ↔ loaded.graph.IsNamed package name id ∧
          ∀ other, loaded.graph.IsNamed package name other → id.index ≤ other.index) ∧
        (loaded.find? package name = none ↔ ∀ id, ¬loaded.graph.IsNamed package name id) := by
  have hindexed : snapshot.rebuildIndex.IsIndexed := isIndexed_rebuildIndex snapshot
  refine ⟨snapshot.rebuildIndex, ?_, rfl, fun package name =>
    ⟨hindexed.find?_eq_some_iff hsize package name, hindexed.find?_eq_none_iff hsize package name⟩⟩
  have hread : Snapshot.ofJson? snapshot.graph.toJson = some ⟨snapshot.graph, .empty⟩ := by
    rw [Snapshot.ofJson?, Graph.ofJson?_toJson hdepth]
    rfl
  rw [Snapshot.ofText, Snapshot.toText, Graph.toText, Json.parse?_pretty]
  show Snapshot.load snapshot.graph.toJson = .ok snapshot.rebuildIndex
  rw [Snapshot.load, hread]
  -- The index that is read is empty, and the old one does not count either.
  show (Snapshot.mk snapshot.graph .empty).rebuildIndex.validated = .ok snapshot.rebuildIndex
  have hkept : snapshot.graph.validated = .ok snapshot.graph := by
    rw [Graph.validated, hvalid]
  rw [Snapshot.validated]
  show (do
    let graph ← snapshot.graph.validated
    return { snapshot.rebuildIndex with graph } : Except SnapshotError Snapshot) = _
  rw [hkept]
  rfl

/-- A structure with a map from structures to arrays of truth values and with recorded memory,
an enumeration inside it, and a second object of the structure's name. -/
def sampleGraph : Graph where
  objects := #[
    { name := "Quote\"\n\u0001é", package := "/Script/Game", outer := some ⟨1⟩,
      kind := .enumType { form := .enumClass, entries := [⟨"EMode::Low", -3⟩] } },
    { name := "Store", package := "/Script/Game",
      kind := .structType {
        flags := ⟨0x1⟩,
        fields := [⟨⟨"Table", .none, 1, 8, some "OnRep\t"⟩,
          .map ⟨"Key", .none, 1, 0, none⟩ (.struct (some ⟨1⟩)) ⟨"Value", .none, 1, 0, none⟩
            (.arrayOf (.bool 4 0x10))⟩],
        size := 0xFFFFFFFFFFFFFFFF,
        defaultInstance := some ⟨[0x00, 0xAB], [⟨0, .object none⟩, ⟨8, .string "\\"⟩]⟩ } },
    { name := "Store", package := "/Script/Game", kind := .instanceOf none }]

/-- The graph with an index that is out of date: it has the later of the two objects. -/
def sampleSnapshot : Snapshot where
  graph := sampleGraph
  index := SortedMap.empty.insert ("/Script/Game", "Store") ⟨2⟩

theorem ofText_toText_sampleSnapshot :
    sampleSnapshot.find? "/Script/Game" "Store" = some ⟨2⟩ ∧
      sampleSnapshot.graph.size < UInt32.size ∧ sampleSnapshot.graph.fault? = none ∧
      sampleSnapshot.graph.toJson.depth < 128 ∧
      ∃ loaded, Snapshot.ofText sampleSnapshot.toText = .ok loaded ∧
        loaded.graph.objects = sampleSnapshot.graph.objects ∧
        loaded.find? "/Script/Game" "Store" = some ⟨1⟩ := by
  have hsize : sampleSnapshot.graph.size < UInt32.size := by decide
  have hvalid : sampleSnapshot.graph.fault? = none := by decide +kernel
  have hdepth : sampleSnapshot.graph.toJson.depth < 128 := by decide
  refine ⟨by decide, hsize, hvalid, hdepth, ?_⟩
  obtain ⟨loaded, hloaded, hobjects, hfind⟩ :=
    Snapshot.ofText_toText sampleSnapshot hsize hvalid hdepth
  have hgraph : loaded.graph = sampleGraph := congrArg Graph.mk hobjects
  refine ⟨loaded, hloaded, hobjects, ?_⟩
  apply ((hfind "/Script/Game" "Store").1 ⟨1⟩).mpr
  rw [hgraph]
  refine ⟨⟨_, rfl, rfl, rfl⟩, ?_⟩
  rintro other ⟨object, hobject, -, hname⟩
  -- Only the first object stands before, and it has another name.
  apply Nat.le_of_not_lt
  intro hearlier
  have hother : other = ⟨0⟩ := ObjectId.index_injective (by
    have hone : ObjectId.index ⟨1⟩ = 1 := rfl
    have hzero : ObjectId.index ⟨0⟩ = 0 := rfl
    omega)
  rw [hother] at hobject
  cases hobject
  revert hname
  decide

end HeaderSynth
