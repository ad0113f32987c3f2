import HeaderSynth.Proofs.Annotation.Collected
import HeaderSynth.Proofs.Declaration.Definitions

/-!
# Signatures in headers and sources

A method is declared in a header and its stubs are defined in a source, each with a parameter
list of its own.  The two lists differ in the annotations of the parameters only, and one cannot
be written where the other cannot.  So the stubs of a method repeat its declaration; only the
function that checks a call returns a truth value whatever the method returns.
-/

namespace HeaderSynth

open Emit (line blank indented)

variable {graph : Graph} {owner : String} {reserved : ReservedNames}

/-! ## Parameters -/

/-- A parameter as a header writes it and as a source does. -/
def IsAnnotated (declared defined : String) : Prop :=
  declared = defined ∨ ∃ text : String, declared = s!"UPARAM({text}) " ++ defined

/-- The parameter list of a header and that of a source. -/
def IsAnnotatedList (declared defined : String) : Prop :=
  ∃ declaredParts definedParts, List.Forall₂ IsAnnotated declaredParts definedParts ∧
    declared = String.intercalate ", " declaredParts ∧
    defined = String.intercalate ", " definedParts

/-- The annotation of a parameter never fails, and lists switches of two names. -/
theorem parameterAnnotation_eq_pure (param : Field) :
    ∃ mark, parameterAnnotation .declaration param = pure mark ∧
      (mark = "" ∨ ∃ names : List String, (∀ name ∈ names, name = "Ref" ∨ name = "NotReplicated") ∧
        let list := String.intercalate ", " names
        mark = s!"UPARAM({list}) ") := by
  have hswitches : ∀ argument ∈ parameterArguments param,
      ∃ name, argument = .switch 0 name ∧ (name = "Ref" ∨ name = "NotReplicated") := by
    intro argument hargument
    obtain ⟨group, hgroup, rule, hrule, rfl⟩ := exists_rule_of_mem_firedArguments hargument
    simp only [RuleTable.parameter, List.mem_cons, List.not_mem_nil, or_false] at hgroup
    rcases hgroup with rfl | rfl
    all_goals
      rw [List.mem_singleton.mp hrule]
      exact ⟨_, rfl, by decide⟩
  obtain ⟨switches, htext, hmem⟩ := Arguments.textOf_switches fun argument hargument =>
    (hswitches argument hargument).imp fun _ hname => hname.1
  unfold parameterAnnotation annotationText
  rw [htext]
  refine ⟨_, rfl, ?_⟩
  split
  · exact .inl rfl
  · refine .inr ⟨switches.toList, fun name hname => ?_, rfl⟩
    obtain ⟨_, hswitch, hnames⟩ := hswitches _ ((hmem name).mp hname)
    cases hswitch
    exact hnames

theorem agree_parameterText (separator : String) (param : Field) :
    (parameterText graph owner .declaration separator reserved param).Agree IsAnnotated
      (parameterText graph owner .definition separator reserved param) := by
  obtain ⟨mark, hpure, hmark⟩ := parameterAnnotation_eq_pure param
  rw [parameterText, parameterText, hpure, parameterAnnotation, pure_bind, pure_bind]
  refine (Logged.Agree.refl (param.typeText graph owner)).bind ?_
  rintro type _ rfl
  apply Logged.Agree.pure
  rcases hmark with rfl | ⟨names, -, rfl⟩
  · exact .inl rfl
  · refine .inr ⟨String.intercalate ", " names, ?_⟩
    simp only [String.append_assoc, String.empty_append]

theorem agree_parameterTexts (separator : String) (method : MethodInfo) :
    (parameterTexts graph owner .declaration separator reserved method).Agree
      (List.Forall₂ IsAnnotated)
      (parameterTexts graph owner .definition separator reserved method) :=
  .mapM (agree_parameterText separator) method.parameters

/-- Where one role has a parameter list so has the other, and only annotations differ. -/
theorem agree_parameterList (method : MethodInfo) :
    (parameterList graph owner .declaration reserved method).Agree IsAnnotatedList
      (parameterList graph owner .definition reserved method) := by
  refine (agree_parameterTexts " " method).bind ?_
  intro declared defined hparts
  exact .pure ⟨declared, defined, hparts, rfl, rfl⟩

theorem parameterList_eq_ok {role : FileRole} {method : MethodInfo} {params : String} :
    (parameterList graph owner role reserved method).result = .ok params ↔
      ∃ parts, (parameterTexts graph owner role " " reserved method).result = .ok parts ∧
        params = String.intercalate ", " parts := by
  rw [parameterList, Logged.result_bind_eq_ok]
  simp only [Logged.pure_eq, Except.ok.injEq, eq_comm]

/-! ## Lines -/

/-- Whether an entry is part of the text of a file. -/
def Emission.isText : Emission → Bool
  | .demand _ => false
  | .diagnose _ => false
  | _ => true

/-- What a computation writes into its file. -/
def Emit.text {α : Type} (emission : Emit α) : List Emission :=
  emission.log.filter (·.isText)

/-- The lines behind which a body is indented. -/
def openings : List Emission → List String
  | .line text :: .indent :: rest => text :: openings rest
  | _ :: rest => openings rest
  | [] => []

/-- A computation that writes nothing into its file. -/
abbrev Emit.Silent {α : Type} (emission : Emit α) : Prop :=
  emission.Within (·.isText = false) fun _ => True

theorem Emit.Silent.text_eq_nil {α : Type} {emission : Emit α} (h : emission.Silent) :
    emission.text = [] :=
  List.filter_eq_nil_iff.mpr fun entry hentry => by simp [h.log entry hentry]

theorem Emit.text_bind {α β : Type} {first : Emit α} {value : α} (h : first.result = .ok value)
    (next : α → Emit β) : (first >>= next).text = first.text ++ (next value).text := by
  rw [text, Logged.bind_ok h, List.filter_append]
  rfl

theorem Emit.Silent.text_bind {α β : Type} {first : Emit α} (h : first.Silent) {value : α}
    (hvalue : first.result = .ok value) (next : α → Emit β) :
    (first >>= next).text = (next value).text := by
  rw [Emit.text_bind hvalue, h.text_eq_nil, List.nil_append]

theorem silent_methodOf (object : Object) : (methodOf object).Silent := by
  rw [methodOf]
  split
  · exact .pure _
  · exact .fail trivial

theorem silent_annotationText (arguments : List Argument) : (annotationText arguments).Silent :=
  .ofExcept fun _ _ => trivial

theorem silent_typeText (owner : String) (field : Field) :
    (field.typeText graph owner).Silent :=
  Logged.Within.mapLog ⟨fun _ _ => trivial, fun _ _ => trivial⟩ fun _ _ => rfl

theorem silent_memberTypeText (owner : String) (field : Field) :
    (field.memberTypeText graph owner).Silent :=
  Logged.Within.mapLog ⟨fun _ _ => trivial, fun _ _ => trivial⟩ fun _ _ => rfl

theorem silent_returnType (owner : String) (method : MethodInfo) :
    (returnType graph owner method).Silent := by
  rw [returnType]
  split
  · exact silent_typeText ..
  · exact .pure _

theorem silent_parameterTexts (owner : String) (role : FileRole) (separator : String)
    (reserved : ReservedNames) (method : MethodInfo) :
    (parameterTexts graph owner role separator reserved method).Silent := by
  have hmark : ∀ param, Emit.Silent <| parameterAnnotation role param := by
    intro param
    cases role with
    | declaration => exact (silent_annotationText _).bind fun _ _ => .pure _
    | definition => exact .pure _
  refine Logged.Within.mapM fun param _ => ?_
  exact (hmark param).bind fun _ _ => (silent_typeText ..).bind fun _ _ => .pure _

theorem silent_parameterList (owner : String) (role : FileRole) (reserved : ReservedNames)
    (method : MethodInfo) : (parameterList graph owner role reserved method).Silent :=
  (silent_parameterTexts owner role " " reserved method).bind fun _ _ => .pure _

theorem silent_enumLiteral (owner member : String) (id : ObjectId) (value : Int) :
    (enumLiteral graph owner member id value).Silent := by
  rw [enumLiteral]
  split
  · exact .pure _
  · exact Logged.Within.bind (.write rfl) fun _ _ => .pure _

theorem silent_zeroValue (owner : String) (field : Field) :
    (zeroValue graph owner field).Silent := by
  have htype : Emit.Silent (do return (← field.typeText graph owner) ++ "()") :=
    (silent_typeText ..).bind fun _ _ => .pure _
  rw [zeroValue]
  split
  all_goals first
    | exact .pure _
    | exact .fail trivial
    | exact htype
    | exact silent_enumLiteral ..

/-! ## Declarations and stubs -/

/-- The parts of a signature that a declaration and its stubs have in common. -/
structure Signature where
  returned : String
  /-- The parameters without annotations. -/
  params : List String
  /-- What stands behind the parameters of a constant method. -/
  const : String

/-- The line that opens the body of the function `name`. -/
def Signature.heading (signature : Signature) (className name : String) : String :=
  let params := String.intercalate ", " signature.params
  s!"{signature.returned} {className}::{name}({params}){signature.const} \x7b"

/-- The line that opens the body of the function `name` that checks a call. -/
def Signature.checkHeading (signature : Signature) (qualifier className name : String) : String :=
  let params := String.intercalate ", " signature.params
  s!"bool {className}::{name}({params}){qualifier} \x7b"

theorem Signature.checkHeading_unqualified (signature : Signature) (className name : String) :
    signature.checkHeading "" className name =
      let params := String.intercalate ", " signature.params
      s!"bool {className}::{name}({params}) \x7b" := by
  simp only [checkHeading, toString, String.append_assoc]
  rfl

/-- The signature of a method as it is written without annotations. -/
structure Signature.IsOf (graph : Graph) (owner : String) (reserved : ReservedNames)
    (method : MethodInfo) (signature : Signature) : Prop where
  returned : (returnType graph owner method).result = .ok signature.returned
  params : (parameterTexts graph owner .definition " " reserved method).result =
    .ok signature.params
  const : signature.const = if method.flags.contains FunctionFlags.const then " const" else ""

/-- The text declares a method with the signature, perhaps with annotated parameters. -/
def Signature.IsDeclaredIn (signature : Signature) (object : Object) (method : MethodInfo)
    (text : List Emission) : Prop :=
  ∃ (annotations : String) (declared : List String),
    List.Forall₂ IsAnnotated declared signature.params ∧
    let static := if method.flags.contains FunctionFlags.static then "static " else ""
    let params := String.intercalate ", " declared
    text = [.line s!"UFUNCTION({annotations})",
      .line s!"{static}{signature.returned} {object.name}({params}){signature.const};", .flush ""]

theorem silent_pureVirtualEnding (owner : String) (place : MethodPlace) (object : Object)
    (method : MethodInfo) : (pureVirtualEnding graph owner place object method).Silent := by
  have hstatement : (returnStatement graph owner method).Silent := by
    rw [returnStatement]
    split
    · exact (silent_zeroValue owner _).bind fun _ _ => .pure _
    · exact .pure _
  rw [pureVirtualEnding]
  split
  · exact hstatement.bind fun _ _ => .pure _
  · exact .pure _

/-- What the declaration of a method consists of, wherever it stands. -/
theorem exists_text_declareMethod {options : GeneratorOptions} {place : MethodPlace}
    {object : Object} (h : (declareMethod graph options owner place reserved object).Succeeds) :
    ∃ (method : MethodInfo) (returned params ending annotations : String),
      object.methodInfo? = some method ∧
      (returnType graph owner method).result = .ok returned ∧
      (parameterList graph owner .declaration reserved method).result = .ok params ∧
      (pureVirtualEnding graph owner place object method).result = .ok ending ∧
      let modifier :=
        if method.flags.contains FunctionFlags.static then "static "
        else if isVirtual place method.flags then "virtual "
        else ""
      let const := if method.flags.contains FunctionFlags.const then " const" else ""
      (declareMethod graph options owner place reserved object).text =
        [.line s!"UFUNCTION({annotations})",
          .line s!"{modifier}{returned} {object.name}({params}){const}{ending};", .flush ""] := by
  obtain ⟨_, hvalue⟩ := h
  obtain ⟨method, hmethod, hvalue⟩ := Logged.result_bind_eq_ok.mp hvalue
  obtain ⟨returned, hreturned, hvalue⟩ := Logged.result_bind_eq_ok.mp hvalue
  obtain ⟨ending, hending, hvalue⟩ := Logged.result_bind_eq_ok.mp hvalue
  obtain ⟨params, hparams, hvalue⟩ := Logged.result_bind_eq_ok.mp hvalue
  obtain ⟨annotations, hannotations, -⟩ := Logged.result_bind_eq_ok.mp hvalue
  refine ⟨method, returned, params, ending, annotations, methodInfo?_of_methodOf hmethod,
    hreturned, hparams, hending, ?_⟩
  have hlines : ∀ first second : String, Emit.text (do
      line first
      line second
      blank) = [.line first, .line second, .flush ""] := fun _ _ => rfl
  rw [declareMethod, (silent_methodOf object).text_bind hmethod]
  dsimp only
  rw [(silent_returnType owner method).text_bind hreturned,
    (silent_pureVirtualEnding owner place object method).text_bind hending,
    (silent_parameterList owner .declaration reserved method).text_bind hparams,
    (silent_annotationText _).text_bind hannotations, hlines]

/-- What the declaration of a method in its class consists of. -/
theorem exists_of_declareMethod {options : GeneratorOptions} {object : Object}
    (h : (declareMethod graph options owner .member reserved object).Succeeds) :
    ∃ (method : MethodInfo) (returned params annotations : String),
      object.methodInfo? = some method ∧
      (returnType graph owner method).result = .ok returned ∧
      (parameterList graph owner .declaration reserved method).result = .ok params ∧
      let static := if method.flags.contains FunctionFlags.static then "static " else ""
      let const := if method.flags.contains FunctionFlags.const then " const" else ""
      (declareMethod graph options owner .member reserved object).text =
        [.line s!"UFUNCTION({annotations})",
          .line s!"{static}{returned} {object.name}({params}){const};", .flush ""] := by
  obtain ⟨method, returned, params, ending, annotations, hmethod, hreturned, hparams, hending,
    htext⟩ := exists_text_declareMethod h
  refine ⟨method, returned, params, annotations, hmethod, hreturned, hparams, ?_⟩
  -- A method of a class is not virtual, so nothing stands behind its parameters but `const`.
  have hplain : isVirtual .member method.flags = false := rfl
  obtain rfl : "" = ending := Except.ok.inj hending
  have hempty : ∀ text : String, text ++ toString "" = text := fun _ => String.append_empty
  rw [htext]
  simp only [hplain, Bool.false_eq_true, if_false, hempty]

theorem Emit.text_indented {body : Emit Unit} (h : body.Succeeds) :
    (indented body).text = .indent :: (body.text ++ [.outdent]) := by
  rw [text, log_indented h, List.filter_cons_of_pos rfl, List.filter_append]
  rfl

theorem openings_append_lines (texts : List String) (rest : List Emission) :
    openings (texts.map .line ++ .outdent :: rest) = openings rest := by
  induction texts with
  | nil => rfl
  | cons text texts ih =>
      cases texts with
      | nil => rfl
      | cons next texts => exact ih

theorem exists_text_zeroBody {method : MethodInfo} (h : (zeroBody graph owner method).Succeeds) :
    ∃ texts : List String, (zeroBody graph owner method).text = texts.map .line := by
  obtain ⟨_, hvalue⟩ := h
  rw [zeroBody] at hvalue ⊢
  split at hvalue
  · obtain ⟨value, hzero, -⟩ := Logged.result_bind_eq_ok.mp hvalue
    rw [(silent_zeroValue owner _).text_bind hzero]
    exact ⟨[s!"return {value};"], rfl⟩
  · exact ⟨[], rfl⟩

/-- Behind the body of a stub comes the function that checks a call, if there is one. -/
theorem openings_defineValidation (className params : String) (validation : Option String) :
    openings (Emit.text do
      line "\x7d"
      defineValidation className params validation
      blank) =
    validation.toList.map fun name => s!"bool {className}::{name}({params}) \x7b" := by
  cases validation with
  | none => rfl
  | some name => rfl

/-- The bodies that the definition of a method opens. -/
theorem openings_defineMethod {className : String} {object : Object} {method : MethodInfo}
    {returned params : String} (h : (defineMethod graph owner className reserved object).Succeeds)
    (hmethod : object.methodInfo? = some method)
    (hreturned : (returnType graph owner method).result = .ok returned)
    (hparams : (parameterList graph owner .definition reserved method).result = .ok params) :
    let const := if method.flags.contains FunctionFlags.const then " const" else ""
    openings (defineMethod graph owner className reserved object).text =
      match stubNames? object.name method.flags with
      | none => []
      | some stubs =>
        s!"{returned} {className}::{stubs.implementation}({params}){const} \x7b" ::
          stubs.validation.toList.map fun name => s!"bool {className}::{name}({params}) \x7b" := by
  have hmethodOf : methodOf object = pure method := by
    rw [methodOf, hmethod]
  obtain ⟨_, hvalue⟩ := h
  rw [defineMethod, hmethodOf, pure_bind] at hvalue ⊢
  cases hstubs : stubNames? object.name method.flags with
  | none => rfl
  | some stubs =>
      rw [hstubs] at hvalue
      dsimp only at hvalue ⊢
      obtain ⟨_, -, hvalue⟩ := Logged.result_bind_eq_ok.mp hvalue
      obtain ⟨_, -, hvalue⟩ := Logged.result_bind_eq_ok.mp hvalue
      obtain ⟨_, -, hvalue⟩ := Logged.result_bind_eq_ok.mp hvalue
      obtain ⟨_, hbody, -⟩ := Logged.result_bind_eq_ok.mp hvalue
      have hzero : (zeroBody graph owner method).Succeeds := requires_indented id ⟨_, hbody⟩
      obtain ⟨texts, htexts⟩ := exists_text_zeroBody hzero
      rw [(silent_parameterList owner .definition reserved method).text_bind hparams,
        (silent_returnType owner method).text_bind hreturned, Emit.text_bind rfl,
        Emit.text_bind hbody]
      change openings (_ ++ ((indented (zeroBody graph owner method)).text ++ _)) = _
      rw [Emit.text_indented hzero, htexts, List.cons_append, List.append_assoc,
        ← openings_defineValidation]
      exact congrArg (List.cons _) (openings_append_lines texts _)

/-- A parameter list in a header fails where that in a source fails, and else only has more
annotations.  What the files and the record of the run hold does not matter, for nothing reads
them, and the return type has one text for both.  So a method that its class declares can be
defined, and its stubs repeat what the declaration says: the implementation all of it, and the
function that checks a call the parameters, with a truth value as its result. -/
theorem stubs_repeat_signature (graph : Graph) (owner : String) (reserved : ReservedNames) :
    (∀ method, (parameterList graph owner .declaration reserved method).Agree IsAnnotatedList
      (parameterList graph owner .definition reserved method)) ∧
    ∀ options object className,
      (declareMethod graph options owner .member reserved object).Succeeds →
      (defineMethod graph owner className reserved object).Succeeds ∧
      ∃ (method : MethodInfo) (signature : Signature) (qualifier : String),
        object.methodInfo? = some method ∧ signature.IsOf graph owner reserved method ∧
        signature.IsDeclaredIn object method
          (declareMethod graph options owner .member reserved object).text ∧
        openings (defineMethod graph owner className reserved object).text =
          match stubNames? object.name method.flags with
          | none => []
          | some stubs =>
            signature.heading className stubs.implementation ::
              stubs.validation.toList.map (signature.checkHeading qualifier className) := by
  refine ⟨agree_parameterList, ?_⟩
  intro options object className hdeclare
  have hwritable := requires_declareMethod options owner .member reserved object hdeclare
  have hdefine : (defineMethod graph owner className reserved object).Succeeds := by
    have hrepeats : (defineMethod graph owner className reserved object).Repeats
        object.signatureUses fun _ => False :=
      repeats_defineMethod hwritable (List.Subset.refl _) owner className reserved
    cases hresult : (defineMethod graph owner className reserved object).result with
    | ok value => exact ⟨value, hresult⟩
    | error fault => exact (hrepeats.failure fault hresult).elim
  obtain ⟨method, returned, params, annotations, hmethod, hreturned, hparams, htext⟩ :=
    exists_of_declareMethod hdeclare
  obtain ⟨declared, hdeclared, rfl⟩ := parameterList_eq_ok.mp hparams
  obtain ⟨defined, hdefined, hannotated⟩ :=
    (agree_parameterTexts " " method).exists_of_ok hdeclared
  let signature : Signature := {
    returned
    params := defined
    const := if method.flags.contains FunctionFlags.const then " const" else "" }
  refine ⟨hdefine, method, signature, "", hmethod, ⟨hreturned, hdefined, rfl⟩,
    ⟨annotations, declared, hannotated, htext⟩, ?_⟩
  rw [openings_defineMethod hdefine hmethod hreturned
    (parameterList_eq_ok.mpr ⟨defined, hdefined, rfl⟩)]
  have hcheck := funext (signature.checkHeading_unqualified className)
  rw [hcheck]
  rfl

/-- A constant method that is called over the network, with a check before the call. -/
def halt : Object where
  name := "Halt"
  package := "/Script/Game"
  outer := some ⟨0⟩
  kind := .function {
    flags := FunctionFlags.net ||| FunctionFlags.netServer ||| FunctionFlags.netReliable |||
      FunctionFlags.netValidate ||| FunctionFlags.native ||| FunctionFlags.const |||
      FunctionFlags.accessPublic
    params := [
      { name := "Reason", kind := .str, flags := PropertyFlags.parm },
      { name := "Count", kind := .int32,
        flags := PropertyFlags.parm ||| PropertyFlags.outParm ||| PropertyFlags.referenceParm }] }

def sentries : Graph where
  objects := #[
    { name := "Sentry", package := "/Script/Game",
      kind := .classType { flags := ClassFlags.native, functions := [⟨1⟩] } },
    halt]

theorem stubs_repeat_signature_halt :
    (defineMethod sentries "Sentry" "USentry" .empty halt).Succeeds ∧
      ∃ (method : MethodInfo) (signature : Signature) (qualifier : String),
        halt.methodInfo? = some method ∧ signature.IsOf sentries "Sentry" .empty method ∧
        signature.IsDeclaredIn halt method
          (declareMethod sentries {} "Sentry" .member .empty halt).text ∧
        openings (defineMethod sentries "Sentry" "USentry" .empty halt).text =
          match stubNames? halt.name method.flags with
          | none => []
          | some stubs =>
            signature.heading "USentry" stubs.implementation ::
              stubs.validation.toList.map (signature.checkHeading qualifier "USentry") :=
  (stubs_repeat_signature sentries "Sentry" .empty).2 {} halt "USentry" ⟨(), rfl⟩

/-- The function that checks a call has neither the result of the method nor its constness. -/
theorem halt_check_repeats_no_signature :
    (declareMethod sentries {} "Sentry" .member .empty halt).text =
        [.line "UFUNCTION(Reliable, Server, WithValidation)",
          .line "void Halt(const FString& Reason, UPARAM(Ref) int32& Count) const;", .flush ""] ∧
      openings (defineMethod sentries "Sentry" "USentry" .empty halt).text =
        ["void USentry::Halt_Implementation(const FString& Reason, int32& Count) const \x7b",
          "bool USentry::Halt_Validate(const FString& Reason, int32& Count) \x7b"] ∧
      ¬∃ method signature name, halt.methodInfo? = some method ∧
        Signature.IsOf sentries "Sentry" .empty method signature ∧
        "bool USentry::Halt_Validate(const FString& Reason, int32& Count) \x7b" =
          signature.heading "USentry" name := by
  refine ⟨by decide +kernel, by decide +kernel, ?_⟩
  rintro ⟨method, ⟨returned, params, const⟩, name, hmethod, hsignature, hheading⟩
  cases hmethod
  obtain rfl : "void" = returned := Except.ok.inj hsignature.returned
  have hfirst := congrArg (·.toList.head?) hheading
  simp [Signature.heading, toString] at hfirst

end HeaderSynth
