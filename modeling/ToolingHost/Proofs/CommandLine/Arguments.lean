import ToolingHost.CommandLine.Arguments

/-! # Values of options

An option that is given has a value that is not empty: no other value is assigned, and every value
is assigned before the arguments are accepted. -/

namespace ToolingHost.CommandLine

/-- No value is empty. -/
def Arguments.Filled (a : Arguments) : Prop :=
  ∀ o value, a.get o = some value → value ≠ ⟨[]⟩

namespace Reading

variable {r r' : Reading}

/-- A value that is assigned is not empty. -/
theorem assign_filled {o : Setting} {value : Bytes} (filled : r.given.Filled)
    (made : r.assign o value = .ok r') : r'.given.Filled := by
  unfold assign at made
  split at made
  · cases made
  · split at made
    next => cases made
    next some_ =>
      cases made
      intro other found given
      by_cases same : other = o
      · rw [same, Arguments.get_set_self] at given
        cases given
        rintro ⟨⟩
        exact some_ rfl
      · rw [Arguments.get_set_of_ne _ _ same] at given
        exact filled other found given

/-- Settling the value that waits leaves no value empty. -/
theorem settle_filled (filled : r.given.Filled) (made : r.settle = .ok r') : r'.given.Filled := by
  unfold settle at made
  split at made
  · cases made
    exact filled
  · cases made
  · exact assign_filled filled made

/-- A step goes on with values that are not empty, or stops without a run. -/
def Step.Filled : Step → Prop
  | .ok r => r.given.Filled
  | .error request => ∀ a, request ≠ .run a

/-- What settles a value first goes on from such values. -/
theorem settling_filled {next : Reading → Step} (filled : r.given.Filled)
    (goesOn : ∀ settled : Reading, settled.given.Filled → (next settled).Filled) :
    (r.settling next).Filled := by
  unfold settling
  split
  next => exact nofun
  next settled => exact goesOn _ (settle_filled filled settled)

/-- A flag stops the reading. -/
theorem obey_filled (filled : r.given.Filled) (flag : Flag) : (r.obey flag).Filled :=
  settling_filled filled fun _ _ => nofun

/-- An option assigns no empty value. -/
theorem stepOption_filled (filled : r.given.Filled) (o : Setting) (value : Option Bytes) :
    (r.stepOption o value).Filled := by
  refine settling_filled filled fun settled filled => ?_
  split
  · exact filled
  · split
    next => exact nofun
    next assigned => exact assign_filled filled assigned

/-- An argument that starts with `--` assigns no empty value. -/
theorem stepLong_filled (filled : r.given.Filled) (name : Bytes) (value : Option Bytes) :
    (r.stepLong name value).Filled := by
  unfold stepLong
  split
  · exact stepOption_filled filled _ value
  · split
    · exact nofun
    · split
      · exact nofun
      · exact obey_filled filled _

/-- An argument that starts with one `-` assigns no empty value. -/
theorem stepShort_filled (filled : r.given.Filled) (letters : Bytes) :
    (r.stepShort letters).Filled := by
  unfold stepShort
  split
  · split
    · exact obey_filled filled _
    · exact nofun
  · exact nofun

/-- A value waits to be assigned. -/
theorem stepValue_filled (filled : r.given.Filled) (argument : Bytes) :
    (r.stepValue argument).Filled := by
  unfold stepValue
  split
  · exact filled
  · exact nofun

/-- **No argument assigns an empty value.** -/
theorem step_filled (filled : r.given.Filled) (argument : Bytes) : (r.step argument).Filled := by
  unfold step
  split
  · exact nofun
  · split
    · split
      · exact stepValue_filled filled _
      · split
        · exact stepShort_filled filled _
        · split
          · exact filled
          · exact stepLong_filled filled _ _
    · exact stepValue_filled filled _

/-- Arguments that are read to the end leave no value empty. -/
theorem readAll_filled {arguments : List Bytes} {a : Arguments} (filled : r.given.Filled)
    (accepted : r.readAll arguments = .run a) : a.Filled := by
  induction arguments generalizing r with
  | nil =>
      rw [readAll] at accepted
      split at accepted
      next => cases accepted
      next settled =>
        cases accepted
        exact settle_filled filled settled
  | cons argument rest ih =>
      have stepped := step_filled filled argument
      rw [readAll] at accepted
      split at accepted
      next request stopped =>
        rw [stopped] at stepped
        exact absurd accepted (stepped a)
      next read =>
        rw [read] at stepped
        exact ih stepped accepted

end Reading

/-- **The values of accepted arguments are not empty.** -/
theorem filled_of_accepted {arguments : List Bytes} {a : Arguments}
    (accepted : Request.ofArguments arguments = .run a) : a.Filled := by
  refine Reading.readAll_filled (fun o value given => ?_) accepted
  cases o <;> cases given

end ToolingHost.CommandLine
