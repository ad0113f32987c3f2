import HeaderSynth.Proofs.Dump.Exposure

/-!
# Enumerations inside the types of members

A member can hold the values of an enumeration inside lists, sets and maps, at any depth.  The
enumeration is exposed by the slot that names it, which has flags of its own: a list that
scripts can see shows its elements only if they can be seen themselves.
-/

namespace HeaderSynth

section

variable {graph : Graph} {field part : Field} {user id : ObjectId}

/-- The declaration of `user`, a class or an aggregate, has the member. -/
def Graph.DeclaresField (graph : Graph) (user : ObjectId) (field : Field) : Prop :=
  ∃ object, graph.object? user = some object ∧ field ∈ object.declaredFields

/-- Scripts can see the field. -/
def Field.IsVisible (field : Field) : Prop :=
  field.flags.contains PropertyFlags.blueprintVisible = true

theorem Field.mem_parts (field : Field) : field ∈ field.parts := by
  obtain ⟨slot, kind⟩ := field
  cases kind <;> exact List.mem_cons_self

/-- A visible part of a member shows the values of its enumeration. -/
theorem Graph.DeclaresField.showsEnum (h : graph.DeclaresField user field)
    (hpart : part ∈ field.parts) (hvisible : part.IsVisible)
    (henum : part.kind.enumType? = some id) : graph.ShowsEnum user id := by
  obtain ⟨object, hobject, hfield⟩ := h
  have huse : field.memberUse ∈ graph.typeUses object :=
    List.mem_append_left _ (List.mem_map_of_mem hfield)
  exact ⟨object, hobject, field.memberUse, huse, part, hpart, hvisible, henum⟩

theorem Dump.Annotates.congr {dump : Dump} {object : PlannedObject} {opening : String}
    {names : List String} {exposed other : Prop} (h : dump.Annotates object opening names exposed)
    (hsame : exposed ↔ other) : dump.Annotates object opening names other := by
  rwa [propext hsame] at h

end

/-- The annotation of an enumeration has the switch `BlueprintType` where a type that a planned
object uses shows its values, and where the configuration and its width ask for it.  So every
visible part of a member exposes its enumeration, in particular a visible member that is not
a container.  That a container is visible does not matter. -/
theorem nested_enum_exposure_of_generate {graph : Graph} {config : Config} {dump : Dump}
    (h : generate graph config = .ok dump) :
    ∃ names planned, graph.plan config = .ok (names, planned) ∧
      ∀ earlier object later, planned = earlier ++ object :: later →
        ∀ reflected info, graph.object? object.id = some reflected →
          reflected.kind = .enumType info →
          (∃ usage, graph.IsRecordOf config.generator earlier usage ∧
            dump.Annotates object "UENUM(" enumSwitches
              ((∃ user ∈ planned, graph.ShowsEnum user.id object.id) ∨
                config.generator.exposeEnums = true ∧ info.fitsByte usage object.id = true)) ∧
          ∀ user ∈ planned, ∀ field, graph.DeclaresField user.id field →
            (∀ part ∈ field.parts, part.IsVisible → part.kind.enumType? = some object.id →
              dump.Annotates object "UENUM(" enumSwitches True) ∧
            (field.IsVisible → field.kind.enumType? = some object.id →
              dump.Annotates object "UENUM(" enumSwitches True) := by
  obtain ⟨names, planned, hplan, hlists⟩ := graph.exists_plan config
  refine ⟨names, planned, hplan, ?_⟩
  rintro earlier object later rfl reflected info hreflected hkind
  obtain ⟨usage, hrecord, hannotates⟩ :=
    annotates_enum_of_generate h hplan hlists hreflected hkind
  refine ⟨⟨usage, hrecord, hannotates⟩, ?_⟩
  intro user huser field hfield
  have hexposed : ∀ part ∈ field.parts, part.IsVisible → part.kind.enumType? = some object.id →
      dump.Annotates object "UENUM(" enumSwitches True := by
    intro part hpart hvisible henum
    have hshows := hfield.showsEnum hpart hvisible henum
    exact hannotates.congr (iff_true_intro (.inl ⟨user, huser, hshows⟩))
  exact ⟨hexposed, hexposed field field.mem_parts⟩

/-- A visible list of lists of values, which stand in slots with the given flags. -/
def stations (flags : PropertyFlags) : Field where
  name := "Stations"
  flags := PropertyFlags.blueprintVisible ||| PropertyFlags.nativeAccessPublic
  kind := .array { name := "Modes", flags := PropertyFlags.blueprintVisible }
    (.set { name := "Mode", flags } (.byte (some ⟨0⟩)))

/-- An enumeration and an aggregate with the list. -/
def radio (flags : PropertyFlags) : Graph where
  objects := #[
    { name := "EMode", package := "/Script/Game", kind := .enumType {} },
    { name := "Radio", package := "/Script/Game",
      kind := .structType { flags := StructFlags.native, fields := [stations flags] } }]

/-- The slot of the values. -/
def stationMode (flags : PropertyFlags) : Field where
  name := "Mode"
  flags
  kind := .byte (some ⟨0⟩)

theorem nested_enum_exposure_of_generate_radio :
    ∃ dump, generate (radio PropertyFlags.blueprintVisible) objectFilesOnly = .ok dump ∧
      dump.Annotates ⟨⟨0⟩, "Game", "EMode"⟩ "UENUM(" enumSwitches True := by
  have hruns : (generate (radio PropertyFlags.blueprintVisible) objectFilesOnly).toBool = true := by
    decide +kernel
  obtain ⟨dump, hdump⟩ := Outcome.exists_of_toBool hruns
  obtain ⟨names, planned, hplan, hexposure⟩ := nested_enum_exposure_of_generate hdump
  have hplanned : planned = [⟨⟨1⟩, "Game", "Radio"⟩, ⟨⟨0⟩, "Game", "EMode"⟩] := by
    have hall : ((radio PropertyFlags.blueprintVisible).plan objectFilesOnly).toOption.map
        (·.2) = some [⟨⟨1⟩, "Game", "Radio"⟩, ⟨⟨0⟩, "Game", "EMode"⟩] := by decide +kernel
    rw [hplan] at hall
    exact Option.some.inj hall
  have huser : ⟨⟨1⟩, "Game", "Radio"⟩ ∈ planned := hplanned ▸ List.mem_cons_self
  have hmembers := (hexposure [⟨⟨1⟩, "Game", "Radio"⟩] ⟨⟨0⟩, "Game", "EMode"⟩ [] hplanned
    _ {} rfl rfl).2 _ huser (stations PropertyFlags.blueprintVisible)
    ⟨_, rfl, List.mem_cons_self⟩
  exact ⟨dump, hdump, hmembers.1 (stationMode PropertyFlags.blueprintVisible)
    (List.mem_cons_of_mem _ (List.mem_cons_of_mem _ List.mem_cons_self)) rfl rfl⟩

/-- Values in a slot that is not visible itself do not expose their enumeration, though the
member around them is visible. -/
theorem radio_hides_mode :
    ∃ dump names planned, generate (radio .none) objectFilesOnly = .ok dump ∧
      (radio .none).plan objectFilesOnly = .ok (names, planned) ∧
      planned = [⟨⟨1⟩, "Game", "Radio"⟩, ⟨⟨0⟩, "Game", "EMode"⟩] ∧
      (radio .none).DeclaresField ⟨1⟩ (stations .none) ∧ (stations .none).IsVisible ∧
      stationMode .none ∈ (stations .none).parts ∧
      (stationMode .none).kind.enumType? = some ⟨0⟩ ∧
      dump.file? "Game/Public/EMode.h" = some ⟨"Game/Public/EMode.h",
        "#pragma once\n#include \"CoreMinimal.h\"\n#include \"EMode.generated.h\"\n\n" ++
        "UENUM()\nenum EMode \x7b\n\x7d;\n\n"⟩ := by
  have hruns : (generate (radio .none) objectFilesOnly).toBool = true := by decide +kernel
  obtain ⟨dump, hdump⟩ := Outcome.exists_of_toBool hruns
  have hfile : dump.file? "Game/Public/EMode.h" =
      (generate (radio .none) objectFilesOnly).toOption.bind (·.file? "Game/Public/EMode.h") := by
    rw [hdump]
    rfl
  refine ⟨dump, _, _, hdump, rfl, by decide +kernel, ⟨_, rfl, List.mem_cons_self⟩, rfl,
    List.mem_cons_of_mem _ (List.mem_cons_of_mem _ List.mem_cons_self), rfl, ?_⟩
  rw [hfile]
  decide +kernel

end HeaderSynth
