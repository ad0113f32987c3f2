import HeaderSynth.Proofs.Annotation.Unambiguous
import HeaderSynth.Proofs.Sorted.Lookups

/-!
# Annotations tell nothing but their arguments

An annotation is built step by step: a step visits a bucket, and may then add an argument to it.
Visits leave empty buckets behind, and a refused parameter leaves what its visit did.  What is
written in the end depends only on the set of arguments that were added, for these are all that
the buckets hold, and buckets with nothing in them are not written.
-/

namespace HeaderSynth

/-! ## Building an annotation -/

/-- A step of building an annotation. -/
inductive BuildStep where
  /-- Visits the bucket at a nesting of `depth`. -/
  | visit (depth : Nat)
  /-- Visits the bucket of an argument, and adds the argument to it. -/
  | add (argument : Argument)

def Argument.depth : Argument → Nat
  | .switch depth _ => depth
  | .parameter depth _ _ => depth

namespace Arguments

/-- Takes a step, and tells which arguments it added. -/
def advance (step : BuildStep) (arguments : Arguments) :
    Arguments × Except GenerateError (List Argument) :=
  match step with
  | .visit depth => (arguments.touch depth, .ok [])
  | .add argument =>
    match (arguments.touch argument.depth).add argument with
    | .ok later => (later, .ok [argument])
    | .error error => (arguments.touch argument.depth, .error error)

/-- Takes one step after the other, whether they succeed or not, and tells which arguments were
added. -/
def build : List BuildStep → Arguments → Arguments × List Argument
  | [], arguments => (arguments, [])
  | step :: rest, arguments =>
    let (next, outcome) := arguments.advance step
    let (last, added) := build rest next
    (last, outcome.toOption.getD [] ++ added)

/-! ## Visits -/

theorem bucketAt_touch (arguments : Arguments) (depth other : Nat) :
    (arguments.touch depth).bucketAt other = arguments.bucketAt other := by
  rw [touch, bucketAt_updateBucket]
  split
  · rename_i hsame
    rw [hsame]
    rfl
  · rfl

theorem holds_touch (arguments : Arguments) (depth : Nat) (argument : Argument) :
    (arguments.touch depth).Holds argument ↔ arguments.Holds argument := by
  cases argument <;> simp only [Holds, bucketAt_touch]

theorem all_isEmpty_iff {buckets : List Bucket} :
    buckets.all Bucket.isEmpty = true ↔ ∀ depth, (bucketAt ⟨buckets⟩ depth).isEmpty = true := by
  induction buckets with
  | nil => exact iff_of_true rfl fun _ => rfl
  | cons bucket rest ih =>
      rw [List.all_cons, Bool.and_eq_true, ih]
      constructor
      · rintro ⟨hbucket, hrest⟩ depth
        cases depth with
        | zero => exact hbucket
        | succ depth => exact hrest depth
      · intro h
        exact ⟨h 0, fun depth => h (depth + 1)⟩

/-- Buckets are written alike if they hold the same, whatever empty ones are behind them. -/
theorem renderBuckets_congr {left right : List Bucket}
    (h : ∀ depth, bucketAt ⟨left⟩ depth = bucketAt ⟨right⟩ depth) :
    renderBuckets left = renderBuckets right := by
  have hempty : left.all Bucket.isEmpty = right.all Bucket.isEmpty := by
    rw [Bool.eq_iff_iff, all_isEmpty_iff, all_isEmpty_iff]
    simp only [h]
  induction left generalizing right with
  | nil => exact (renderBuckets_of_isEmpty (hempty ▸ List.all_nil)).symm
  | cons bucket rest ih =>
      have hhead : (bucket :: rest).headD .empty = right.headD .empty := by
        rw [← bucketAt_zero, h, bucketAt_zero]
      have htail : ∀ depth, bucketAt ⟨rest⟩ depth = bucketAt ⟨right.tail⟩ depth := by
        intro depth
        rw [← bucketAt_succ, ← h]
        rfl
      have hinner : rest.all Bucket.isEmpty = right.tail.all Bucket.isEmpty := by
        rw [Bool.eq_iff_iff, all_isEmpty_iff, all_isEmpty_iff]
        simp only [htail]
      rw [renderBuckets_eq, renderBuckets_eq right, hhead, List.tail_cons, nestedParts, nestedParts,
        hinner, ih htail hinner]

/-- What is written, and whether anything is, depends on what the buckets hold. -/
theorem render_congr {left right : Arguments}
    (h : ∀ depth, left.bucketAt depth = right.bucketAt depth) :
    left.render = right.render ∧ left.isEmpty = right.isEmpty := by
  refine ⟨renderBuckets_congr h, ?_⟩
  rw [isEmpty, isEmpty, Bool.eq_iff_iff, all_isEmpty_iff, all_isEmpty_iff]
  exact forall_congr' fun depth => Bool.eq_iff_iff.mp (congrArg Bucket.isEmpty (h depth))

/-! ## Buckets and what they hold -/

end Arguments

/-- Every key of the bucket has a value. -/
def Bucket.IsFilled (bucket : Bucket) : Prop :=
  ∀ entry ∈ bucket.parameters.toList, ∃ value, value ∈ entry.2

namespace Bucket.IsFilled

variable {bucket other : Bucket}

theorem empty : Bucket.empty.IsFilled :=
  fun _ hentry => absurd hentry List.not_mem_nil

theorem addSwitch (h : bucket.IsFilled) (name : String) : (bucket.addSwitch name).IsFilled :=
  h

theorem addParameter (h : bucket.IsFilled) (key value : String) :
    (bucket.addParameter key value).IsFilled := by
  apply forall_mem_alterAscending (P := fun _ values => ∃ value, value ∈ values) h
  · exact ⟨value, SortedSet.mem_insert.mpr (.inl rfl)⟩
  · exact fun _ _ => ⟨value, SortedSet.mem_insert.mpr (.inl rfl)⟩

/-- What a key leads to is told by the values that it has. -/
theorem get?_eq_none_iff (h : bucket.IsFilled) {key : String} :
    bucket.parameters.get? key = none ↔
      ∀ value, value ∉ (bucket.parameters.get? key).getD .empty := by
  cases hget : bucket.parameters.get? key with
  | none => exact iff_of_true rfl SortedSet.not_mem_empty
  | some values =>
      obtain ⟨value, hvalue⟩ := h (key, values) (SortedMap.mem_toList_iff.mpr hget)
      exact iff_of_false (by simp) fun hnone => hnone value hvalue

/-- Filled buckets with the same switches and the same values of every key are equal. -/
theorem ext (h : bucket.IsFilled) (hother : other.IsFilled)
    (hswitches : ∀ name, name ∈ bucket.switches ↔ name ∈ other.switches)
    (hvalues : ∀ key value, value ∈ (bucket.parameters.get? key).getD .empty ↔
      value ∈ (other.parameters.get? key).getD .empty) : bucket = other := by
  have hparameters : bucket.parameters = other.parameters := by
    refine SortedMap.ext_get? fun key => ?_
    have hsets := SortedSet.ext (hvalues key)
    cases hget : bucket.parameters.get? key with
    | none =>
        refine (hother.get?_eq_none_iff.mpr fun value hvalue => ?_).symm
        exact h.get?_eq_none_iff.mp hget value ((hvalues key value).mpr hvalue)
    | some values =>
        cases hsame : other.parameters.get? key with
        | none =>
            have hnone : bucket.parameters.get? key = none :=
              h.get?_eq_none_iff.mpr fun value hvalue =>
                hother.get?_eq_none_iff.mp hsame value ((hvalues key value).mp hvalue)
            rw [hget] at hnone
            cases hnone
        | some others =>
            rw [hget, hsame] at hsets
            exact congrArg some hsets
  obtain ⟨switches, parameters⟩ := bucket
  cases hparameters
  obtain rfl := SortedSet.ext hswitches
  rfl

end Bucket.IsFilled

namespace Arguments

/-- Arguments that hold the same are written alike. -/
theorem render_eq_of_holds_iff {left right : Arguments}
    (hleft : ∀ bucket ∈ left.buckets, bucket.IsFilled)
    (hright : ∀ bucket ∈ right.buckets, bucket.IsFilled)
    (h : ∀ argument, left.Holds argument ↔ right.Holds argument) :
    left.render = right.render ∧ left.isEmpty = right.isEmpty := by
  have hfilled : ∀ {arguments : Arguments}, (∀ bucket ∈ arguments.buckets, bucket.IsFilled) →
      ∀ depth, (arguments.bucketAt depth).IsFilled := by
    intro arguments hbuckets depth
    rw [bucketAt]
    cases hbucket : arguments.buckets[depth]? with
    | none => exact Bucket.IsFilled.empty
    | some bucket => exact hbuckets bucket (List.mem_of_getElem? hbucket)
  refine render_congr fun depth => ?_
  exact (hfilled hleft depth).ext (hfilled hright depth) (fun name => h (.switch depth name))
    fun key value => h (.parameter depth key value)

/-! ## Steps -/

theorem isFilled_touch {arguments : Arguments} (h : ∀ bucket ∈ arguments.buckets, bucket.IsFilled)
    (depth : Nat) : ∀ bucket ∈ (arguments.touch depth).buckets, bucket.IsFilled :=
  forall_mem_updateBucket Bucket.IsFilled.empty (fun _ hbucket => hbucket) depth h

theorem isFilled_add {arguments later : Arguments} {argument : Argument}
    (h : ∀ bucket ∈ arguments.buckets, bucket.IsFilled)
    (hadd : arguments.add argument = .ok later) :
    ∀ bucket ∈ later.buckets, bucket.IsFilled := by
  cases argument with
  | switch depth name =>
      cases hadd
      exact forall_mem_updateBucket Bucket.IsFilled.empty
        (fun _ hbucket => hbucket.addSwitch name) depth h
  | parameter depth key value =>
      rw [add] at hadd
      split at hadd
      · cases hadd
      · cases hadd
        exact forall_mem_updateBucket Bucket.IsFilled.empty
          (fun _ hbucket => hbucket.addParameter key value) depth h

/-- A step adds to what the buckets hold the arguments that it tells of, and nothing else. -/
theorem advance_holds_iff {arguments : Arguments} (step : BuildStep) (argument : Argument) :
    (arguments.advance step).1.Holds argument ↔
      argument ∈ (arguments.advance step).2.toOption.getD [] ∨ arguments.Holds argument := by
  cases step with
  | visit depth => simpa [advance, Except.toOption] using holds_touch arguments depth argument
  | add added =>
      rw [advance]
      split
      · rename_i later hadd
        rw [holds_add hadd, holds_touch, or_comm]
        simp [Except.toOption]
      · simpa [Except.toOption] using holds_touch arguments added.depth argument

theorem isFilled_advance {arguments : Arguments}
    (h : ∀ bucket ∈ arguments.buckets, bucket.IsFilled) (step : BuildStep) :
    ∀ bucket ∈ (arguments.advance step).1.buckets, bucket.IsFilled := by
  cases step with
  | visit depth => exact isFilled_touch h depth
  | add added =>
      rw [advance]
      split
      · rename_i later hadd
        exact isFilled_add (isFilled_touch h added.depth) hadd
      · exact isFilled_touch h added.depth

/-- A refused step changes nothing that is written. -/
theorem render_advance_of_error {arguments : Arguments} {step : BuildStep} {error : GenerateError}
    (h : (arguments.advance step).2 = .error error) :
    (arguments.advance step).1.render = arguments.render ∧
      (arguments.advance step).1.isEmpty = arguments.isEmpty := by
  cases step with
  | visit depth => cases h
  | add added =>
      rw [advance] at h ⊢
      split at h
      · cases h
      · exact render_congr (bucketAt_touch arguments added.depth)

/-- The only steps that are refused add a parameter with the key of the nested bucket. -/
theorem advance_eq_error_iff {arguments : Arguments} {step : BuildStep} {error : GenerateError} :
    (arguments.advance step).2 = .error error ↔
      ∃ depth key value, step = .add (.parameter depth key value) ∧ isMetaKey key = true ∧
        error = .reservedKey key := by
  cases step with
  | visit depth => simp [advance]
  | add added =>
      cases added with
      | switch depth name => simp [advance, add]
      | parameter depth key value =>
          rw [advance, add]
          cases hkey : isMetaKey key with
          | false => simp [hkey]
          | true =>
              constructor
              · rintro ⟨⟩
                exact ⟨depth, key, value, rfl, hkey, rfl⟩
              · rintro ⟨_, _, _, ⟨⟩, _, rfl⟩
                rfl

/-! ## Runs -/

theorem isFilled_build {arguments : Arguments} (h : ∀ bucket ∈ arguments.buckets, bucket.IsFilled)
    (steps : List BuildStep) : ∀ bucket ∈ (build steps arguments).1.buckets, bucket.IsFilled := by
  induction steps generalizing arguments with
  | nil => exact h
  | cons step rest ih => exact ih (isFilled_advance h step)

/-- In the end the buckets hold what they held before and what was added. -/
theorem build_holds_iff {arguments : Arguments} (steps : List BuildStep) (argument : Argument) :
    (build steps arguments).1.Holds argument ↔
      argument ∈ (build steps arguments).2 ∨ arguments.Holds argument := by
  induction steps generalizing arguments with
  | nil => simp [build]
  | cons step rest ih =>
      have hrest : (build rest (arguments.advance step).1).1.Holds argument ↔
          argument ∈ (build rest (arguments.advance step).1).2 ∨
            (arguments.advance step).1.Holds argument := ih
      rw [advance_holds_iff] at hrest
      simpa [build, or_assoc, or_left_comm] using hrest

/-- Two annotations are written alike, and are empty alike, if the same arguments were added to
both, in whatever order, however often, and whatever else was visited or refused.  Nothing is
refused but a parameter with the key of the nested bucket, and then nothing changes in what is
written. -/
theorem render_eq_of_same_additions (steps others : List BuildStep) :
    ((∀ argument, argument ∈ (build steps empty).2 ↔ argument ∈ (build others empty).2) →
      (build steps empty).1.render = (build others empty).1.render ∧
        (build steps empty).1.isEmpty = (build others empty).1.isEmpty) ∧
      ∀ (arguments : Arguments) (step : BuildStep) (error : GenerateError),
        ((arguments.advance step).2 = .error error ↔
          ∃ depth key value, step = .add (.parameter depth key value) ∧ isMetaKey key = true ∧
            error = .reservedKey key) ∧
        ((arguments.advance step).2 = .error error →
          (arguments.advance step).1.render = arguments.render ∧
            (arguments.advance step).1.isEmpty = arguments.isEmpty) := by
  constructor
  · intro hsame
    have hfilled : ∀ bucket ∈ empty.buckets, bucket.IsFilled :=
      fun _ hbucket => absurd hbucket List.not_mem_nil
    refine render_eq_of_holds_iff (isFilled_build hfilled steps) (isFilled_build hfilled others) ?_
    intro argument
    rw [build_holds_iff, build_holds_iff, hsame]
  · intro arguments step error
    exact ⟨advance_eq_error_iff, render_advance_of_error⟩

/-- Two values of a nested key in either order, one of them twice, beside a visit far inside and a
parameter that is refused. -/
theorem render_eq_of_same_additions_racks :
    let tools := BuildStep.add (.parameter 1 "Category" "Tools")
    let racks := BuildStep.add (.parameter 1 "Category" "Racks")
    let refused := BuildStep.add (.parameter 2 "META" "true")
    let steps := [tools, racks]
    let others := [racks, .visit 3, refused, tools, racks]
    (∀ argument, argument ∈ (build steps empty).2 ↔ argument ∈ (build others empty).2) ∧
      (build steps empty).1.render = (build others empty).1.render ∧
      (build steps empty).1.isEmpty = (build others empty).1.isEmpty ∧
      (build steps empty).1 ≠ (build others empty).1 ∧
      (build others empty).1.render = "meta=(Category=(Racks, Tools))" ∧
      ((build steps empty).1.advance refused).2 = .error (.reservedKey "META") ∧
      ((build steps empty).1.advance refused).1.render = (build steps empty).1.render := by
  intro tools racks refused steps others
  have hsteps : (build steps empty).2 =
      [.parameter 1 "Category" "Tools", .parameter 1 "Category" "Racks"] := by decide +kernel
  have hothers : (build others empty).2 =
      [.parameter 1 "Category" "Racks", .parameter 1 "Category" "Tools",
        .parameter 1 "Category" "Racks"] := by decide +kernel
  have hsame : ∀ argument,
      argument ∈ (build steps empty).2 ↔ argument ∈ (build others empty).2 := by
    intro argument
    rw [hsteps, hothers]
    simp only [List.mem_cons, List.not_mem_nil, or_false]
    tauto
  have hrefused : ((build steps empty).1.advance refused).2 = .error (.reservedKey "META") := rfl
  obtain ⟨hwritten, hrefusals⟩ := render_eq_of_same_additions steps others
  have hkept := (hrefusals (build steps empty).1 refused (.reservedKey "META")).2 hrefused
  exact ⟨hsame, (hwritten hsame).1, (hwritten hsame).2, by decide +kernel, by decide +kernel,
    hrefused, hkept.1⟩

end Arguments

end HeaderSynth
