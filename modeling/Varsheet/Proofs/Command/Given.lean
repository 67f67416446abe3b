import Mathlib.Logic.Basic
import Varsheet.Command.Args

/-!
# Settings one by one

A command line gives its settings one after another. Each of them fills a place that has to be free, so the order in
which they come makes no difference: the settings are known from what was given, if each thing was given once.

* `Given`, `Settings.give?`, `Settings.giveAll?` : one thing that is given, and many
* `Settings.Asks` : what settings consist of
* `Given.IsNameless` : what is refused in any case
* `Settings.GivenBy` : these are all the things that settings consist of, each once
* `GivenBy.giveAll?_eq` : giving all of them, in any order, makes the settings
-/

namespace Varsheet.Command

/-- One thing that a command line gives. -/
inductive Given where
  | value (setting : Setting) (text : String)
  | on (switch : Switch)
  | input (path : String)
deriving DecidableEq, Repr

/-- The empty name of a file. -/
def Given.IsNameless : Given → Prop
  | .value setting text => setting = .config ∧ text = ""
  | .on _ => False
  | .input path => path = ""

namespace Settings

def give? (settings : Settings) : Given → Option Settings
  | .value setting text => settings.set? setting text
  | .on switch => settings.turnOn? switch
  | .input path => settings.setInput? path

def giveAll? (settings : Settings) : List Given → Option Settings
  | [] => some settings
  | given :: later => (settings.give? given).bind fun changed => changed.giveAll? later

/-- The settings have this thing. -/
def Asks (settings : Settings) : Given → Prop
  | .value setting text => settings.get? setting = some text
  | .on switch => settings.isOn switch = true
  | .input path => settings.input = some path

/-- These are the things that the settings have, each of them once. -/
structure GivenBy (settings : Settings) (givens : List Given) : Prop where
  nodup : givens.Nodup
  mem_iff : ∀ given, given ∈ givens ↔ settings.Asks given

variable {settings other : Settings} {given : Given}

theorem giveAll?_append (settings : Settings) (front back : List Given) :
    settings.giveAll? (front ++ back) =
      (settings.giveAll? front).bind fun changed => changed.giveAll? back := by
  induction front generalizing settings with
  | nil => rfl
  | cons given front ih =>
    rw [List.cons_append, giveAll?, giveAll?, Option.bind_assoc]
    exact Option.bind_congr fun changed _ => ih changed

/-- Settings are known from the things that they have. -/
theorem eq_of_asks_iff (same : ∀ given, settings.Asks given ↔ other.Asks given) : settings = other := by
  have values (setting : Setting) : settings.get? setting = other.get? setting :=
    Option.ext fun text => same (.value setting text)
  have switches (switch : Switch) : settings.isOn switch = other.isOn switch :=
    Bool.eq_iff_iff.2 (same (.on switch))
  have inputs : settings.input = other.input := Option.ext fun path => same (.input path)
  cases settings
  cases other
  rw [Settings.mk.injEq]
  exact ⟨inputs, values .target, values .container, values .symbol, values .quotes, values .tab, values .config,
    switches .closure, switches .noSolve, switches .json, switches .verbose⟩

/-! ## One more thing -/

theorem not_asks_empty (given : Given) : ¬ empty.Asks given := by
  cases given with
  | value setting text => cases setting <;> exact nofun
  | on switch => cases switch <;> exact nofun
  | input path => exact nofun

theorem give?_of_isNameless (nameless : given.IsNameless) (settings : Settings) : settings.give? given = none := by
  cases given with
  | value setting text =>
    obtain ⟨rfl, rfl⟩ := nameless
    simp [give?, set?]
  | on switch => exact nameless.elim
  | input path =>
    obtain rfl := nameless
    simp [give?, setInput?]

/-- An option whose place is free takes its value, and no other place changes. -/
theorem exists_set? {setting : Setting} {text : String} (free : settings.get? setting = none)
    (filled : setting = .config → text ≠ "") :
    ∃ changed, settings.set? setting text = some changed ∧
      (∀ place, changed.get? place = if place = setting then some text else settings.get? place) ∧
      (∀ switch, changed.isOn switch = settings.isOn switch) ∧ changed.input = settings.input := by
  simp only [set?, free, Option.isSome_none, Bool.false_eq_true, if_false]
  cases setting with
  | config =>
    -- the only option whose value can be refused
    rw [if_neg (filled rfl)]
    exact ⟨_, rfl, fun place => by cases place <;> rfl, fun switch => by cases switch <;> rfl, rfl⟩
  | _ => exact ⟨_, rfl, fun place => by cases place <;> rfl, fun switch => by cases switch <;> rfl, rfl⟩

theorem exists_turnOn? {switch : Switch} (free : settings.isOn switch = false) :
    ∃ changed, settings.turnOn? switch = some changed ∧
      (∀ setting, changed.get? setting = settings.get? setting) ∧
      (∀ place, changed.isOn place = (decide (place = switch) || settings.isOn place)) ∧
      changed.input = settings.input := by
  simp only [turnOn?, free, Bool.false_eq_true, if_false]
  cases switch <;>
    exact ⟨_, rfl, fun setting => by cases setting <;> rfl, fun place => by cases place <;> rfl, rfl⟩

/-- The place of a thing is free. -/
def Lacks (settings : Settings) : Given → Prop
  | .value setting _ => settings.get? setting = none
  | .on switch => settings.isOn switch = false
  | .input _ => settings.input = none

/-- What has its place free, and is no empty name, can be given, and nothing else changes. -/
theorem exists_give? (free : settings.Lacks given) (named : ¬ given.IsNameless) :
    ∃ changed, settings.give? given = some changed ∧
      ∀ thing, changed.Asks thing ↔ settings.Asks thing ∨ thing = given := by
  cases given with
  | value setting text =>
    obtain ⟨changed, done, values, switches, input⟩ := exists_set? free fun same empty => named ⟨same, empty⟩
    refine ⟨changed, done, fun thing => ?_⟩
    cases thing with
    | value place content =>
      by_cases same : place = setting
      · subst same
        simp [Asks, values, show settings.get? place = none from free, eq_comm]
      · simp [Asks, values, same]
    | on switch => simp [Asks, switches]
    | input path => simp [Asks, input]
  | on switch =>
    obtain ⟨changed, done, values, switches, input⟩ := exists_turnOn? free
    refine ⟨changed, done, fun thing => ?_⟩
    cases thing with
    | value setting text => simp [Asks, values]
    | on place => simp [Asks, switches, or_comm]
    | input path => simp [Asks, input]
  | input path =>
    have filled : path ≠ "" := named
    have unnamed : settings.input = none := free
    refine ⟨{ settings with input := some path }, by simp [give?, setInput?, filled, unnamed], fun thing => ?_⟩
    cases thing with
    | value setting text => cases setting <;> simp [Asks, get?]
    | on switch => cases switch <;> simp [Asks, isOn]
    | input other => simp [Asks, unnamed, eq_comm]

/-- Two things for one place are never both there. -/
theorem lacks_of_not_asks {goal : Settings} (inside : ∀ thing, settings.Asks thing → goal.Asks thing)
    (asked : goal.Asks given) (missing : ¬ settings.Asks given) : settings.Lacks given := by
  cases given with
  | value setting text =>
    refine Option.eq_none_iff_forall_ne_some.2 fun held there => ?_
    cases (inside (.value setting held) there).symm.trans asked
    exact missing there
  | on switch => exact Bool.eq_false_iff.2 missing
  | input path =>
    refine Option.eq_none_iff_forall_ne_some.2 fun held there => ?_
    cases (inside (.input held) there).symm.trans asked
    exact missing there

/-! ## Many things -/

theorem giveAll?_of_mem_isNameless {givens : List Given} (member : given ∈ givens) (nameless : given.IsNameless)
    (settings : Settings) : settings.giveAll? givens = none := by
  induction givens generalizing settings with
  | nil => cases member
  | cons first later ih =>
    rw [giveAll?, Option.bind_eq_none_iff]
    cases member with
    | head =>
      intro changed done
      rw [give?_of_isNameless nameless] at done
      cases done
    | tail _ behind => exact fun changed _ => ih behind changed

/-- Whatever has been given already, the rest completes the settings. -/
theorem giveAll?_eq_some {goal : Settings} {givens : List Given} (nodup : givens.Nodup)
    (missing : ∀ given ∈ givens, ¬ settings.Asks given) (named : ∀ given ∈ givens, ¬ given.IsNameless)
    (whole : ∀ given, goal.Asks given ↔ settings.Asks given ∨ given ∈ givens) :
    settings.giveAll? givens = some goal := by
  induction givens generalizing settings with
  | nil =>
    rw [giveAll?, eq_of_asks_iff fun given => (whole given).trans (or_iff_left List.not_mem_nil)]
  | cons first later ih =>
    obtain ⟨fresh, nodup⟩ := List.nodup_cons.1 nodup
    obtain ⟨firstMissing, missing⟩ := List.forall_mem_cons.1 missing
    obtain ⟨firstNamed, named⟩ := List.forall_mem_cons.1 named
    have free : settings.Lacks first := lacks_of_not_asks (fun thing there => (whole thing).2 (.inl there))
      ((whole first).2 (.inr List.mem_cons_self)) firstMissing
    obtain ⟨changed, done, asks⟩ := exists_give? free firstNamed
    rw [giveAll?, done, Option.bind_some]
    -- what comes later is still missing, as the first thing does not come again
    refine ih nodup ?_ named ?_
    · intro given member there
      obtain before | rfl := (asks given).1 there
      · exact missing given member before
      · exact fresh member
    · intro given
      rw [whole, asks, List.mem_cons, or_assoc]

/-- The settings name no file by an empty name. -/
def IsNamed (settings : Settings) : Prop :=
  settings.config ≠ some "" ∧ settings.input ≠ some ""

instance (settings : Settings) : Decidable settings.IsNamed :=
  inferInstanceAs (Decidable (_ ∧ _))

/-- What a command line comes to that gives these settings. -/
def request (settings : Settings) : Request :=
  if settings.IsNamed then .run settings else .mistake

/-- All the things that settings have make the settings again, in any order, unless one of them is an empty name. -/
theorem GivenBy.giveAll?_eq {givens : List Given} (givenBy : settings.GivenBy givens) :
    empty.giveAll? givens = if settings.IsNamed then some settings else none := by
  by_cases named : settings.IsNamed
  · rw [if_pos named]
    refine giveAll?_eq_some givenBy.nodup (fun given _ => not_asks_empty given) ?_ fun given => ?_
    · intro given member nameless
      have asked := (givenBy.mem_iff given).1 member
      cases given with
      | value setting text =>
        obtain ⟨rfl, rfl⟩ := nameless
        exact named.1 asked
      | on switch => exact nameless
      | input path =>
        obtain rfl := nameless
        exact named.2 asked
    · rw [givenBy.mem_iff, or_iff_right (not_asks_empty given)]
  · rw [if_neg named]
    rw [IsNamed, not_and_or, not_not, not_not] at named
    obtain config | input := named
    · exact giveAll?_of_mem_isNameless ((givenBy.mem_iff (.value .config "")).2 config) ⟨rfl, rfl⟩ empty
    · exact giveAll?_of_mem_isNameless ((givenBy.mem_iff (.input "")).2 input) rfl empty

end Settings

end Varsheet.Command
