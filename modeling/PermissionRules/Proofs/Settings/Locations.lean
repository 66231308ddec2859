import PermissionRules.Settings.Load
import PermissionRules.Settings.Locations
import Mathlib.Data.List.Basic

/-! Files found in the scopes. The locations of a search stand in the order of the scopes; what is present at
them, and whatever is made of that one by one, keeps this order. -/
namespace PermissionRules.Settings
open Files

/-- The scope in which a target was found. -/
def Target.scope? : Target → Option Scope
  | file _ scope => scope
  | inline _ => none

/-- The files at some locations, as the targets that they are loaded as. -/
inductive Found (store : Store) (located : List (Scope × Path)) : Target → Prop where
  | file {scope path} : (scope, path) ∈ located → store.exists? path = .ok true →
      Found store located (.file path (some scope))

variable {store : Store} {look : Path → Sight} {located before after : List (Scope × Path)}
variable {target : Target} {scope : Scope} {path : Path}

/-! ### What is present -/

theorem present_sightOf : (sightOf store path).present = true ↔ store.exists? path = .ok true := by
  unfold sightOf
  cases store.exists? path with
  | error fault => exact iff_of_false Bool.false_ne_true nofun
  | ok found =>
    show found = true ↔ _
    rw [Except.ok.injEq]

theorem mem_present : target ∈ present (sightOf store) located ↔ Found store located target := by
  simp only [present, List.mem_map, List.mem_filter, Prod.exists]
  constructor
  · rintro ⟨scope, path, ⟨member, found⟩, rfl⟩
    exact .file member (present_sightOf.mp found)
  · rintro ⟨member, found⟩
    exact ⟨_, _, ⟨member, present_sightOf.mpr found⟩, rfl⟩

theorem present_append (look : Path → Sight) (before after : List (Scope × Path)) :
    present look (before ++ after) = present look before ++ present look after := by
  simp only [present, List.filter_append, List.map_append]

theorem present_cons (there : (look path).present = true) (after : List (Scope × Path)) :
    present look ((scope, path) :: after) = .file path (some scope) :: present look after := by
  simp only [present, List.filter_cons, there, if_true, List.map_cons]

/-! ### The order of the scopes -/

theorem map_filterMap_sublist {α β : Type} {f : α → Option β} {back : β → α}
    (inverse : ∀ a b, f a = some b → back b = a) (list : List α) :
    ((list.filterMap f).map back).Sublist list := by
  induction list with
  | nil => exact .slnil
  | cons a list ih =>
    rw [List.filterMap_cons]
    cases found : f a with
    | none => exact ih.cons a
    | some b =>
      rw [List.map_cons, inverse a b found]
      exact ih.cons_cons a

/-- A location is named by its scope. -/
theorem fst_of_location (user : Option Path) (project : Path) (scope : Scope) (entry : Scope × Path)
    (found : (scope.path? user project).map (scope, ·) = some entry) : entry.1 = scope := by
  obtain ⟨path, _, rfl⟩ := Option.map_eq_some_iff.mp found
  rfl

theorem scopes_locations (user : Option Path) (project : Path) (asked : List Scope) :
    ((locations user project asked).map Prod.fst).Sublist Scope.all :=
  (map_filterMap_sublist (fst_of_location user project) _).trans List.filter_sublist

theorem scopes_present (order : (located.map Prod.fst).Sublist Scope.all) (look : Path → Sight) :
    ((present look located).map Target.scope?).Sublist (Scope.all.map some) := by
  have tagged : (present look located).map Target.scope? =
      ((located.filter fun entry => (look entry.2).present).map Prod.fst).map some := by
    rw [present, List.map_map, List.map_map]
    rfl
  rw [tagged]
  exact ((List.filter_sublist.map Prod.fst).trans order).map some

/-! ### What is made of the targets that are present -/

section
variable {β : Type} {f : Target → Option β} {back : β → Target} {Holds : Target → β → Prop}

theorem mem_filterMap_present (told : ∀ target b, f target = some b ↔ back b = target ∧ Holds target b)
    {b : β} : b ∈ (present (sightOf store) located).filterMap f ↔
      Found store located (back b) ∧ Holds (back b) b := by
  simp only [List.mem_filterMap, told, mem_present]
  constructor
  · rintro ⟨target, found, rfl, holds⟩
    exact ⟨found, holds⟩
  · rintro ⟨found, holds⟩
    exact ⟨_, found, rfl, holds⟩

theorem scopes_filterMap_present
    (told : ∀ target b, f target = some b ↔ back b = target ∧ Holds target b)
    (order : (located.map Prod.fst).Sublist Scope.all) (look : Path → Sight) :
    (((present look located).filterMap f).map fun b => (back b).scope?).Sublist (Scope.all.map some) := by
  have inverse : ∀ target b, f target = some b → back b = target := by
    intro target b found
    exact ((told target b).mp found).1
  have chosen := (map_filterMap_sublist inverse (present look located)).map Target.scope?
  rw [List.map_map] at chosen
  exact chosen.trans (scopes_present order look)

end

end PermissionRules.Settings
