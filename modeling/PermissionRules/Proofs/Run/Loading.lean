import PermissionRules.Run.Loading
import Mathlib.Data.List.Basic

/-! Loading, told by the targets alone. A selection has the same targets as long as the same places
hold something, and each of them loads by itself. -/
namespace PermissionRules.Run
open CommandLine Document Files Settings

/-- The targets of a selection: those that are given, or those that are present in the scopes. -/
def targets (look : Path → Sight) (environment : Environment) (selection : Selection) :
    List Target :=
  if selection.settings.isEmpty then present look (searched environment selection)
  else selection.settings.map Target.ofInput

variable {look look' : Path → Sight} {environment : Environment} {selection : Selection}
variable {loaded : List Loaded} {f : Value → Value}

theorem path?_isSome_of_mem_present {locations : List (Scope × Path)} {target : Target}
    (member : target ∈ present look locations) : target.path?.isSome = true := by
  obtain ⟨_, _, rfl⟩ := List.mem_map.mp member
  rfl

/-- Targets are files if the given ones are. -/
theorem path?_isSome_of_mem_targets
    (files : ∀ input ∈ selection.settings, (Target.ofInput input).path?.isSome = true)
    {target : Target} (member : target ∈ targets look environment selection) :
    target.path?.isSome = true := by
  unfold targets at member
  split at member
  · exact path?_isSome_of_mem_present member
  · obtain ⟨input, given, rfl⟩ := List.mem_map.mp member
    exact files input given

theorem loadable?_eq_some {target : Target} {one : Loaded} : loadable? look target = some one ↔
    one.target = target ∧ target.load look = .ok one.document := by
  obtain ⟨target', document⟩ := one
  unfold loadable?
  cases target.load look with
  | error fault => simp
  | ok held =>
    simp only [Option.some.injEq, Loaded.mk.injEq, Except.ok.injEq]
    exact and_congr_left fun _ => eq_comm

theorem skipped?_eq_some {target : Target} {one : Skipped} : skipped? look target = some one ↔
    one.target = target ∧ target.load look = .error one.fault := by
  obtain ⟨target', fault⟩ := one
  unfold skipped?
  cases target.load look with
  | ok document => simp
  | error held =>
    simp only [Option.some.injEq, Skipped.mk.injEq, Except.error.injEq]
    exact and_congr_left fun _ => eq_comm

theorem skipped?_eq_none {target : Target} : skipped? look target = none ↔
    ∃ document, target.load look = .ok document := by
  unfold skipped?
  cases target.load look <;> simp

/-- Given targets are loaded in order, up to the first one that does not load. -/
theorem loadGiven_eq (look : Path → Sight) (targets : List Target) :
    loadGiven look targets = match targets.findSome? (skipped? look) with
      | some first => .error (.load first.target first.fault)
      | none => .ok (targets.filterMap (loadable? look)) := by
  induction targets with
  | nil => rfl
  | cons target rest ih =>
    rw [loadGiven, ih, List.findSome?_cons]
    cases loads : target.load look with
    | error fault =>
      have failing : skipped? look target = some ⟨target, fault⟩ :=
        skipped?_eq_some.mpr ⟨rfl, loads⟩
      rw [failing]
    | ok document =>
      have loading : skipped? look target = none := skipped?_eq_none.mpr ⟨document, loads⟩
      have head : loadable? look target = some ⟨target, document⟩ :=
        loadable?_eq_some.mpr ⟨rfl, loads⟩
      rw [loading, List.filterMap_cons_some head]
      cases rest.findSome? (skipped? look) with
      | none | some first => rfl

theorem loadGiven_eq_ok {targets : List Target} : loadGiven look targets = .ok loaded ↔
    (∀ target ∈ targets, ∃ document, target.load look = .ok document) ∧
      loaded = targets.filterMap (loadable? look) := by
  rw [loadGiven_eq]
  constructor
  · intro loads
    split at loads
    case h_1 => contradiction
    case h_2 found =>
      refine ⟨fun target member => ?_, (Except.ok.inj loads).symm⟩
      exact skipped?_eq_none.mp (List.findSome?_eq_none_iff.mp found target member)
  · rintro ⟨loads, rfl⟩
    have found : targets.findSome? (skipped? look) = none :=
      List.findSome?_eq_none_iff.mpr fun target member =>
        skipped?_eq_none.mpr (loads target member)
    rw [found]

/-- Given targets are loaded in the order in which they are given. -/
theorem targets_of_loadGiven {targets : List Target} (loads : loadGiven look targets = .ok loaded) :
    loaded.map Loaded.target = targets := by
  induction targets generalizing loaded with
  | nil => rw [← Except.ok.inj loads, List.map_nil]
  | cons target rest ih =>
    rw [loadGiven] at loads
    split at loads
    case h_1 => contradiction
    case h_2 =>
      cases others : loadGiven look rest with
      | error error =>
        rw [others] at loads
        contradiction
      | ok later =>
        rw [others] at loads
        rw [← Except.ok.inj loads, List.map_cons, ih others]

theorem load_given (look : Path → Sight) (environment : Environment) {selection : Selection}
    (given : selection.settings ≠ []) : load look environment selection =
      ⟨[], loadGiven look (selection.settings.map Target.ofInput)⟩ := by
  rw [load, if_neg (by simpa using given)]

/-- What is loaded are the targets that load, with their documents. -/
theorem load_ok (loads : (load look environment selection).result = .ok loaded) :
    loaded = (targets look environment selection).filterMap (loadable? look) := by
  unfold load at loads
  unfold targets
  split at loads
  case isTrue search =>
    rw [if_pos search]
    simp only [loadFound] at loads
    split at loads
    case isTrue => contradiction
    case isFalse => exact (Except.ok.inj loads).symm
  case isFalse given =>
    rw [if_neg given]
    exact (loadGiven_eq_ok.mp loads).2

theorem mem_load (loads : (load look environment selection).result = .ok loaded) {one : Loaded} :
    one ∈ loaded ↔ one.target ∈ targets look environment selection ∧
      one.target.load look = .ok one.document := by
  rw [load_ok loads, List.mem_filterMap]
  constructor
  · rintro ⟨target, member, loads⟩
    obtain ⟨rfl, loads⟩ := loadable?_eq_some.mp loads
    exact ⟨member, loads⟩
  · rintro ⟨member, loads⟩
    exact ⟨one.target, member, loadable?_eq_some.mpr ⟨rfl, loads⟩⟩

theorem load_of_mem_skipped {one : Skipped} (member : one ∈ (load look environment selection).skipped) :
    one.target.load look = .error one.fault := by
  unfold load at member
  split at member
  case isTrue =>
    obtain ⟨_, _, told⟩ := List.mem_filterMap.mp member
    obtain ⟨rfl, fails⟩ := skipped?_eq_some.mp told
    exact fails
  case isFalse => contradiction

/-- A target with a function applied to its document. -/
def Loaded.map (f : Value → Value) (loaded : Loaded) : Loaded :=
  { loaded with document := f loaded.document }

theorem loadable?_map {target : Target} (same : target.load look' = (target.load look).map f) :
    loadable? look' target = (loadable? look target).map (Loaded.map f) := by
  unfold loadable?
  rw [same]
  cases target.load look <;> rfl

theorem loadGiven_map {targets : List Target}
    (same : ∀ target ∈ targets, target.load look' = (target.load look).map f) :
    loadGiven look' targets = (loadGiven look targets).map (List.map (Loaded.map f)) := by
  induction targets with
  | nil => rfl
  | cons target rest ih =>
    obtain ⟨head, others⟩ := List.forall_mem_cons.mp same
    rw [loadGiven, loadGiven, head, ih others]
    cases target.load look with
    | error fault => rfl
    | ok document => cases loadGiven look rest <;> rfl

theorem filterMap_loadable?_map {targets : List Target}
    (same : ∀ target ∈ targets, target.load look' = (target.load look).map f) :
    targets.filterMap (loadable? look') =
      (targets.filterMap (loadable? look)).map (Loaded.map f) := by
  rw [List.map_filterMap]
  exact List.filterMap_congr fun target member => loadable?_map (same target member)

/-- When the same paths show something and each target loads with its document changed by a function,
the loaded documents are changed by it. -/
theorem load_map (present : ∀ path, (look' path).present = (look path).present)
    (same : ∀ target ∈ targets look environment selection,
      target.load look' = (target.load look).map f)
    (loads : (load look environment selection).result = .ok loaded) :
    (load look' environment selection).result = .ok (loaded.map (Loaded.map f)) := by
  unfold targets at same
  unfold load at loads ⊢
  split
  case isTrue search =>
    rw [if_pos search] at same loads
    have found : ∀ locations, Settings.present look' locations = Settings.present look locations :=
      fun locations => by simp only [Settings.present, present]
    simp only [loadFound, found, filterMap_loadable?_map same, List.isEmpty_map] at loads ⊢
    split at loads
    case isTrue => contradiction
    case isFalse some =>
      rw [if_neg some, Except.ok.inj loads]
  case isFalse given =>
    rw [if_neg given] at same loads
    have loads' : loadGiven look (selection.settings.map Target.ofInput) = .ok loaded := loads
    simp only [loadGiven_map same, loads']
    rfl

end PermissionRules.Run
