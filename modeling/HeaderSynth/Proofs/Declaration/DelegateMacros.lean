import HeaderSynth.Proofs.Declaration.OverrideStubs
import HeaderSynth.Proofs.Text.MacroArguments

/-!
# Arguments of delegate macros

A delegate is declared by a macro whose name tells the number of parameters and whether there is a
result.  Such a macro takes the type of the result, the name of the delegate, and a type and a name
for each parameter.  The list of arguments that is written has this length, except that nothing
protects the comma inside the type of a map: each map that a parameter or the result is made of, at
any depth, adds one argument too many.
-/

namespace HeaderSynth

open Text (IsPlain AddsArguments readArguments)

/-! ## What the name of a macro tells -/

/-- The words that tell the number of parameters, from one parameter on. -/
def countWords : List String :=
  ["OneParam", "TwoParams", "ThreeParams", "FourParams", "FiveParams", "SixParams", "SevenParams",
    "EightParams", "NineParams"]

/-- The words of the name of a macro. -/
def macroWords (name : String) : List (List Char) :=
  Text.splitAt '_' name.toList

/-- The number of parameters that the name of a macro tells. -/
def parametersTold (name : String) : Nat :=
  match countWords.findIdx? fun word => (macroWords name).contains word.toList with
  | some index => index + 1
  | none => 0

/-- Whether the name of a macro tells that there is a result. -/
def resultTold (name : String) : Bool :=
  (macroWords name).contains "RetVal".toList

/-- The number of arguments that a macro takes by its name. -/
def argumentsTold (name : String) : Nat :=
  1 + (if resultTold name then 1 else 0) + 2 * parametersTold name

/-- The name of a macro tells what the delegate has. -/
theorem told_delegateMacro {method : MethodInfo}
    (h : method.parameters.length ≤ maxDelegateParameters) :
    resultTold (delegateMacro method) = method.returnParam?.isSome ∧
      parametersTold (delegateMacro method) = method.parameters.length := by
  obtain ⟨count, hcount⟩ : ∃ count : Fin 10, count.val = method.parameters.length :=
    ⟨⟨method.parameters.length, Nat.lt_succ_of_le h⟩, rfl⟩
  unfold delegateMacro
  rw [← hcount]
  -- The name depends on the number and on four choices only, so there are few names to read.
  generalize method.flags.contains FunctionFlags.multicastDelegate = multicast
  generalize method.sparse = sparse
  generalize method.returnParam?.isSome = result
  generalize method.flags.contains FunctionFlags.const = const
  clear hcount
  revert count multicast sparse result const
  simp only [resultTold, parametersTold, macroWords, String.toList_append]
  decide +kernel

theorem argumentsTold_delegateMacro {method : MethodInfo}
    (h : method.parameters.length ≤ maxDelegateParameters) :
    argumentsTold (delegateMacro method) =
      1 + method.returnParam?.toList.length + 2 * method.parameters.length := by
  obtain ⟨hresult, hparameters⟩ := told_delegateMacro h
  rw [argumentsTold, hresult, hparameters]
  cases method.returnParam? <;> rfl

/-! ## Types -/

/-- The names of the objects that there are among `ids`. -/
def Graph.namesOf (graph : Graph) (ids : List ObjectId) : List String :=
  ids.filterMap fun id => (graph.object? id).map (·.name)

/-- The names that the text of a type is made of. -/
def FieldKind.names (graph : Graph) : FieldKind → List String
  | .enum enumType _ _ => graph.namesOf enumType.toList
  | .fieldPath fieldClass => [fieldClass]
  | .array _ inner => inner.names graph
  | .set _ element => element.names graph
  | .map _ key _ value => key.names graph ++ value.names graph
  | kind => graph.namesOf kind.targets

/-- The number of maps that the text of a type is made of. -/
def FieldKind.maps : FieldKind → Nat
  | .array _ inner => inner.maps
  | .set _ element => element.maps
  | .map _ key _ value => key.maps + 1 + value.maps
  | _ => 0

variable {graph : Graph} {owner : String}

section Names

variable {id : ObjectId} (h : ∀ name ∈ graph.namesOf [id], IsPlain name)

include h

theorem isPlain_objectName {fallback : String} (hfallback : IsPlain fallback) :
    IsPlain (((graph.object? id).map (·.name)).getD fallback) := by
  cases hobject : graph.object? id with
  | none => exact hfallback
  | some object => exact h object.name (by simp [Graph.namesOf, hobject])

theorem isPlain_className : IsPlain (graph.className id) := by
  have hname : IsPlain (((graph.object? id).map (·.name)).getD "Object") :=
    isPlain_objectName h (by decide)
  rw [Graph.className]
  split
  · exact IsPlain.append (by decide) hname
  · exact IsPlain.append (by decide) hname

theorem isPlain_enumTypeName : IsPlain (graph.enumTypeName id) := by
  have hname : ∀ object, graph.object? id = some object → IsPlain object.name := by
    intro object hobject
    exact h object.name (by simp [Graph.namesOf, hobject])
  rw [Graph.enumTypeName]
  split
  · decide
  · rename_i object hobject
    split
    · split
      · exact (hname object hobject).append (by decide)
      · exact hname object hobject
    · exact hname object hobject

/-- The ending of a signature is cut off, and what is left has no other characters. -/
theorem isPlain_delegateName : IsPlain (graph.delegateName id) := by
  have hname : IsPlain (((graph.object? id).map (·.name)).getD "") :=
    isPlain_objectName h (by decide)
  refine IsPlain.append (by decide) ?_
  generalize ((graph.object? id).map (·.name)).getD "" = name at hname
  rw [delegateBaseName, Text.beforeSuffix?]
  cases hcut : delegateSuffix.toList.isSuffixOf? name.toList with
  | none => exact hname
  | some base =>
      have happend := List.isSuffixOf?_eq_some_iff_append_eq.mp hcut
      intro c hc
      rw [Option.map_some, Option.getD_some, String.toList_ofList] at hc
      apply hname c
      rw [← happend]
      exact List.mem_append_left delegateSuffix.toList hc

end Names

theorem isPlain_wrap {target : String} (h : IsPlain target) (reference : ObjectReference) :
    IsPlain (reference.wrap target) := by
  cases reference with
  | raw => exact h.append (by decide)
  | ptr => exact (IsPlain.append (by decide) h).append (by decide)
  | weak => exact (IsPlain.append (by decide) h).append (by decide)
  | lazy => exact (IsPlain.append (by decide) h).append (by decide)
  | soft => exact (IsPlain.append (by decide) h).append (by decide)

/-- The text of a type adds an argument for each map that it is made of, and none of its own. -/
theorem addsArguments_spelling {kind : FieldKind} (h : ∀ name ∈ kind.names graph, IsPlain name) :
    AddsArguments 0 kind.maps (kind.spelling graph) := by
  induction kind with
  | byte enumType =>
      cases enumType with
      | none =>
          rw [FieldKind.spelling]
          exact .of_isPlain (by decide)
      | some id => exact .enclose (by decide) (.of_isPlain (isPlain_enumTypeName h)) (by decide)
  | enum enumType inner underlying ih =>
      cases enumType with
      | none => exact .empty 0
      | some id => exact .of_isPlain (isPlain_enumTypeName h)
  | object reference target =>
      cases target with
      | none => exact .of_isPlain (isPlain_wrap (by decide) reference)
      | some id => exact .of_isPlain (isPlain_wrap (isPlain_className h) reference)
  | classRef reference metaClass =>
      cases reference with
      | ptr =>
          rw [FieldKind.spelling]
          exact .of_isPlain (by decide)
      | soft =>
          cases metaClass with
          | none =>
          rw [FieldKind.spelling]
          exact .of_isPlain (by decide)
          | some id => exact .enclose (by decide) (.of_isPlain (isPlain_className h)) (by decide)
      | raw =>
          cases metaClass with
          | none =>
          rw [FieldKind.spelling]
          exact .of_isPlain (by decide)
          | some id =>
              rw [FieldKind.spelling]
              split
              · exact .of_isPlain (by decide)
              · exact .enclose (by decide) (.of_isPlain (isPlain_className h)) (by decide)
  | interface target =>
      cases target with
      | none =>
          rw [FieldKind.spelling]
          exact .of_isPlain (by decide)
      | some id =>
          have hname : IsPlain (graph.contractName id) :=
            IsPlain.append (by decide) (isPlain_objectName h (by decide))
          rw [FieldKind.spelling]
          split
          · exact .of_isPlain (by decide)
          · exact .enclose (by decide) (.of_isPlain hname) (by decide)
  | struct structType =>
      cases structType with
      | none => exact .empty 0
      | some id => exact .of_isPlain (IsPlain.append (by decide) (isPlain_objectName h (by decide)))
  | delegate signature multicast =>
      cases signature with
      | none => exact .empty 0
      | some id => exact .of_isPlain (isPlain_delegateName h)
  | fieldPath fieldClass =>
      have hclass : IsPlain fieldClass := h fieldClass List.mem_cons_self
      exact .enclose (by decide) (.of_isPlain hclass) (by decide)
  | array inner element ih => exact .enclose (by decide) (ih h) (by decide)
  | set inner element ih => exact .enclose (by decide) (ih h) (by decide)
  | map keySlot key valueSlot value ihKey ihValue =>
      obtain ⟨hkey, hvalue⟩ := List.forall_mem_append.mp h
      have hopening : AddsArguments 0 0 "TMap<" := .of_isPlain (by decide)
      have hclosing : AddsArguments 0 0 ">" := .of_isPlain (by decide)
      have hfront := (hopening.append (ihKey hkey)).append .separator
      have hall := (hfront.append (ihValue hvalue)).append hclosing
      rwa [Nat.zero_add, Nat.add_zero] at hall
  | unsupported className => exact .empty 0
  | _ =>
      rw [FieldKind.spelling]
      exact .of_isPlain (by decide)

theorem addsArguments_typeText {kind : FieldKind} (h : ∀ name ∈ kind.names graph, IsPlain name)
    {member : Bool} {slot : Slot} {text : String}
    (htext : (typeText graph owner member slot kind).result = .ok text) :
    AddsArguments 0 kind.maps text := by
  rw [result_typeText] at htext
  split at htext
  · cases htext
  · cases htext
    rw [FieldKind.spellingAs]
    split
    · rename_i hbits
      -- A bit field is a truth value, which is made of no maps.
      cases kind with
      | bool byteOffset mask => exact .of_isPlain (by decide)
      | _ => cases hbits
    · exact addsArguments_spelling h

/-! ## Parameters -/

/-- The annotation of a parameter keeps its commas in brackets. -/
theorem parameterAnnotation_adds_nothing (param : Field) :
    ∃ mark, parameterAnnotation .declaration param = pure mark ∧ AddsArguments 0 0 mark := by
  obtain ⟨_, hpure, rfl | ⟨names, hnames, rfl⟩⟩ := parameterAnnotation_eq_pure param
  · exact ⟨"", hpure, .empty 0⟩
  · refine ⟨_, hpure, ?_⟩
    have hplain : ∀ name ∈ names, AddsArguments 1 0 name := by
      intro name hname
      rcases hnames name hname with rfl | rfl
      · exact .of_isPlain (by decide)
      · exact .of_isPlain (by decide)
    have hlist : AddsArguments 1 0 (String.intercalate ", " names) := by
      have hall := AddsArguments.intercalate (.protected_separator 0)
        (List.forall₂_map_left_iff.mpr (List.forall₂_same.mpr hplain))
      simpa using hall
    have hbrackets : ∀ list : String,
        s!"UPARAM({list}) " = "UPARAM" ++ ("(" ++ list ++ ")") ++ " " := by
      intro list
      change "UPARAM" ++ "(" ++ list ++ (")" ++ " ") = _
      simp only [String.append_assoc]
    rw [hbrackets]
    exact .enclose (by decide) hlist.brackets (by decide)

/-- A parameter is its type and its name, with a comma between them. -/
theorem addsArguments_parameterText {param : Field} {text : String}
    (hname : IsPlain param.name) (htype : ∀ name ∈ param.kind.names graph, IsPlain name)
    (h : (parameterText graph owner .declaration ", " .empty param).result = .ok text) :
    AddsArguments 0 (param.kind.maps + 1) text := by
  obtain ⟨mark, hpure, hmark⟩ := parameterAnnotation_adds_nothing param
  rw [parameterText, hpure, pure_bind] at h
  obtain ⟨type, htext, h⟩ := Logged.result_bind_eq_ok.mp h
  cases h
  have hchoice : ∀ (flag : Bool) {word : String}, IsPlain word →
      AddsArguments 0 0 (if flag then word else "") := by
    intro flag word hword
    cases flag with
    | false => exact .empty 0
    | true => exact .of_isPlain hword
  let isConst := param.flags.contains PropertyFlags.constParm || param.isForcedReference
  let isReference := param.isReference || param.isForcedReference
  have hconst : AddsArguments 0 0 (if isConst then "const " else "") := hchoice _ (by decide)
  have hreference : AddsArguments 0 0 (if isReference then "&" else "") := hchoice _ (by decide)
  have hfront := hmark.append hconst
  have hpassed := (hfront.append (addsArguments_typeText htype htext)).append hreference
  have hall := (hpassed.append .separator).append (.of_isPlain hname)
  have hunchanged : parameterName .empty param = param.name := rfl
  rw [hunchanged]
  simpa only [Nat.zero_add, Nat.add_zero] using hall

/-! ## Delegates -/

/-- The names that the arguments of a delegate are made of, without its own. -/
def MethodInfo.argumentNames (graph : Graph) (method : MethodInfo) : List String :=
  method.returnParam?.toList.flatMap (·.kind.names graph) ++
    method.parameters.flatMap fun param => param.name :: param.kind.names graph

/-- The number of maps that the result and the parameters are made of. -/
def MethodInfo.maps (method : MethodInfo) : Nat :=
  ((method.returnParam?.toList ++ method.parameters).map (·.kind.maps)).sum

section Arguments

variable {method : MethodInfo} (h : ∀ name ∈ method.argumentNames graph, IsPlain name)

include h

theorem addsArguments_resultTypes {texts : List String}
    (htexts : (resultTypes graph owner method).result = .ok texts) :
    List.Forall₂ (AddsArguments 0) (method.returnParam?.toList.map (·.kind.maps)) texts := by
  rw [resultTypes] at htexts
  rw [MethodInfo.argumentNames] at h
  cases hreturn : method.returnParam? with
  | none =>
      rw [hreturn] at htexts
      cases htexts
      exact .nil
  | some field =>
      rw [hreturn] at htexts h
      obtain ⟨type, htype, htexts⟩ := Logged.result_bind_eq_ok.mp htexts
      cases htexts
      have hnames : ∀ name ∈ field.kind.names graph, IsPlain name :=
        fun name hname => h name (List.mem_append_left _ (by simpa using hname))
      exact .cons (addsArguments_typeText hnames htype) .nil

theorem addsArguments_parameterTexts {texts : List String}
    (htexts : (parameterTexts graph owner .declaration ", " .empty method).result = .ok texts) :
    List.Forall₂ (AddsArguments 0) (method.parameters.map (·.kind.maps + 1)) texts := by
  have hplain : ∀ param ∈ method.parameters,
      IsPlain param.name ∧ ∀ name ∈ param.kind.names graph, IsPlain name := by
    intro param hparam
    apply List.forall_mem_cons.mp
    intro name hname
    exact h name (List.mem_append_right _ (List.mem_flatMap.mpr ⟨param, hparam, hname⟩))
  rw [List.forall₂_map_left_iff]
  refine (List.forall₂_and_left _ _ |>.mpr ⟨hplain, Logged.forall₂_of_mapM_eq_ok htexts⟩).imp ?_
  rintro param text ⟨⟨hname, htype⟩, htext⟩
  exact addsArguments_parameterText hname htype htext

/-- The list of arguments, up to the bracket that closes it. -/
theorem readArguments_delegateArguments {name : String} (hname : IsPlain name)
    {texts : List String}
    (htexts : (delegateArguments graph name method).result = .ok texts) :
    ∃ arguments, readArguments 0 (String.intercalate ", " texts ++ ");").toList =
        some (arguments, [';']) ∧
      arguments.length = 1 + method.returnParam?.toList.length + 2 * method.parameters.length +
        method.maps := by
  obtain ⟨params, hparams, htexts⟩ := Logged.result_bind_eq_ok.mp htexts
  obtain ⟨result, hresult, htexts⟩ := Logged.result_bind_eq_ok.mp htexts
  cases htexts
  have hresultTexts := addsArguments_resultTypes h hresult
  have hparamTexts := addsArguments_parameterTexts h hparams
  have htexts := List.rel_append hresultTexts (.cons (.of_isPlain hname) hparamTexts)
  have hclosing : readArguments 0 ");".toList = some ([[]], [';']) := by decide
  obtain ⟨arguments, hread, hlength⟩ := AddsArguments.intercalate .separator htexts hclosing
  refine ⟨arguments, ?_, ?_⟩
  · rw [String.toList_append]
    exact hread
  · have hresultLength := hresultTexts.length_eq
    have hparamLength := hparamTexts.length_eq
    rw [List.length_map] at hresultLength hparamLength
    have hcommas : (method.parameters.map (·.kind.maps + 1)).sum =
        (method.parameters.map (·.kind.maps)).sum + method.parameters.length := by
      rw [List.sum_map_add, List.map_const', List.sum_replicate]
      simp
    rw [hlength, MethodInfo.maps, List.sum_append, List.sum_cons, hcommas, List.length_append,
      List.length_cons, ← hresultLength, ← hparamLength, List.map_append, List.sum_append,
      List.length_singleton]
    omega

end Arguments

theorem parameters_le_of_delegateInfo {object : Object} {method : MethodInfo}
    (h : delegateInfo object = .ok method) :
    method.parameters.length ≤ maxDelegateParameters := by
  rw [delegateInfo] at h
  split at h
  · cases h
  · split at h
    · cases h
    · split at h
      · cases h
      · rename_i hle
        cases h
        exact Nat.le_of_not_lt hle

/-- A delegate that can be declared is one line behind its annotation: a macro and, up to the
bracket that closes it, as many arguments as the name of the macro tells, and one more for each map
that the result and the parameters are made of.  So the list fits the macro exactly if there is no
map. -/
theorem argument_count_of_declareDelegate {options : GeneratorOptions} {topLevel : Bool}
    {id : ObjectId} {object : Object} {method : MethodInfo}
    (hobject : graph.object? id = some object)
    (hmethod : object.methodInfo? = some method)
    (hnames : ∀ name ∈ object.name :: method.argumentNames graph, IsPlain name)
    (h : (declareDelegate graph options topLevel id).Succeeds) :
    ∃ (mark list : String) (arguments : List (List Char)),
      (Logged.result <| delegateAnnotation graph options topLevel object method) = .ok mark ∧
      (declareDelegate graph options topLevel id).text =
        [.line s!"{mark}{delegateMacro method}({list});"] ∧
      readArguments 0 (list ++ ");").toList = some (arguments, [';']) ∧
      arguments.length = argumentsTold (delegateMacro method) + method.maps := by
  obtain ⟨hname, hargumentNames⟩ := List.forall_mem_cons.mp hnames
  obtain ⟨_, hvalue⟩ := h
  obtain ⟨found, hfound, hvalue⟩ := Logged.result_bind_eq_ok.mp hvalue
  obtain ⟨info, hinfo, hvalue⟩ := Logged.result_bind_eq_ok.mp hvalue
  obtain ⟨mark, hmark, hvalue⟩ := Logged.result_bind_eq_ok.mp hvalue
  obtain ⟨texts, htexts, -⟩ := Logged.result_bind_eq_ok.mp hvalue
  obtain rfl : found = object :=
    Option.some.inj ((Graph.get_eq_ok.mp hfound).symm.trans hobject)
  obtain rfl : info = method :=
    Option.some.inj ((methodInfo?_of_delegateInfo hinfo).symm.trans hmethod)
  have hplain : IsPlain (graph.delegateName id) := by
    apply isPlain_delegateName
    simpa [Graph.namesOf, hobject] using hname
  obtain ⟨arguments, hread, hlength⟩ :=
    readArguments_delegateArguments hargumentNames hplain htexts
  refine ⟨mark, String.intercalate ", " texts, arguments, hmark, ?_, hread, ?_⟩
  · have hget : Emit.Silent (Logged.ofExcept (graph.get id)) := .ofExcept fun _ _ => trivial
    have hpayload : Emit.Silent (Logged.ofExcept (delegateInfo found)) :=
      .ofExcept fun _ _ => trivial
    rw [declareDelegate, hget.text_bind hfound, hpayload.text_bind hinfo,
      (silent_delegateMark topLevel found info).text_bind hmark,
      (silent_delegateArguments _ info).text_bind htexts]
    rfl
  · rw [hlength, argumentsTold_delegateMacro (parameters_le_of_delegateInfo hinfo)]

/-- A delegate signature that stands directly in its package. -/
def signatureOf (name : String) (method : MethodInfo) : Object where
  name := name ++ delegateSuffix
  package := "/Script/Game"
  kind := .function method

/-- A delegate that lists what keeps a score from changing, and may correct the change. -/
def scoreChanging : MethodInfo where
  flags := FunctionFlags.delegate
  params := [
    { name := "Player", kind := .str, flags := PropertyFlags.parm },
    { name := "Delta", kind := .int32,
      flags := PropertyFlags.parm ||| PropertyFlags.outParm ||| PropertyFlags.referenceParm },
    { name := "ReturnValue", kind := .arrayOf .name,
      flags := PropertyFlags.parm ||| PropertyFlags.outParm ||| PropertyFlags.returnParm }]

/-- A delegate that tells all scores. -/
def scoresChanged : MethodInfo where
  flags := FunctionFlags.delegate ||| FunctionFlags.multicastDelegate
  params := [{ name := "Scores", kind := .mapOf .str .int32, flags := PropertyFlags.parm }]

def scoreboard : Graph where
  objects := #[signatureOf "ScoreChanging" scoreChanging, signatureOf "ScoresChanged" scoresChanged]

theorem argument_count_of_declareDelegate_scoreChanging :
    let object := signatureOf "ScoreChanging" scoreChanging
    (∀ name ∈ object.name :: scoreChanging.argumentNames scoreboard, IsPlain name) ∧
      (declareDelegate scoreboard {} false ⟨0⟩).Succeeds ∧
      delegateMacro scoreChanging = "DECLARE_DYNAMIC_DELEGATE_RetVal_TwoParams" ∧
      ∃ (mark list : String) (arguments : List (List Char)),
        (Logged.result <| delegateAnnotation scoreboard {} false object scoreChanging) = .ok mark ∧
        (declareDelegate scoreboard {} false ⟨0⟩).text =
          [.line s!"{mark}{delegateMacro scoreChanging}({list});"] ∧
        readArguments 0 (list ++ ");").toList = some (arguments, [';']) ∧ arguments.length = 6 := by
  intro object
  have hnames : ∀ name ∈ object.name :: scoreChanging.argumentNames scoreboard, IsPlain name := by
    have hlist : object.name :: scoreChanging.argumentNames scoreboard =
        ["ScoreChanging__DelegateSignature", "Player", "Delta"] := by decide +kernel
    rw [hlist]
    simp only [List.forall_mem_cons]
    exact ⟨by decide, by decide, by decide, nofun⟩
  have hdeclared : (declareDelegate scoreboard {} false ⟨0⟩).Succeeds := ⟨(), rfl⟩
  have hcount : argumentsTold (delegateMacro scoreChanging) + scoreChanging.maps = 6 := by
    decide +kernel
  obtain ⟨mark, list, arguments, hmark, htext, hread, hlength⟩ :=
    argument_count_of_declareDelegate rfl rfl hnames hdeclared
  exact ⟨hnames, hdeclared, by decide +kernel, mark, list, arguments, hmark, htext, hread,
    hlength.trans hcount⟩

/-- The comma of a map cuts its type in two, so there is an argument too many. -/
theorem scoresChanged_exceeds_macro :
    let object := signatureOf "ScoresChanged" scoresChanged
    let list := "FScoresChanged, TMap<FString, int32>, Scores"
    let arguments := ["FScoresChanged", " TMap<FString", " int32>", " Scores"].map (·.toList)
    (∀ name ∈ object.name :: scoresChanged.argumentNames scoreboard, IsPlain name) ∧
      (declareDelegate scoreboard {} true ⟨1⟩).Succeeds ∧
      (declareDelegate scoreboard {} true ⟨1⟩).text =
        [.line s!"UDELEGATE() {delegateMacro scoresChanged}({list});"] ∧
      readArguments 0 (list ++ ");").toList = some (arguments, [';']) ∧
      parametersTold (delegateMacro scoresChanged) = 1 ∧
      resultTold (delegateMacro scoresChanged) = false ∧ arguments.length ≠ 1 + 0 + 2 * 1 := by
  intro object list arguments
  have hnames : object.name :: scoresChanged.argumentNames scoreboard =
      ["ScoresChanged__DelegateSignature", "Scores"] := by decide +kernel
  rw [hnames]
  simp only [List.forall_mem_cons]
  exact ⟨⟨by decide, by decide, nofun⟩, ⟨(), rfl⟩, by decide +kernel, by decide +kernel,
    by decide +kernel, by decide +kernel, by decide⟩

end HeaderSynth
