import PermissionRules.Proofs.Settings.Locations

/-! Which files a search looks for. Each scope has one file, a user scope only below a user directory, and a
list of scopes asks for those of them that it names. Only what is named counts, so neither the order of the
list nor a repetition changes anything, and a name less is a file less. -/
namespace PermissionRules.Settings
open Files

/-- The file of each scope: below the user directory, if there is one, or below the project. -/
inductive FileOf (user : Option Path) (project : Path) : Scope → Path → Prop where
  | user {directory} : user = some directory →
      FileOf user project .user (directory.join "settings.json")
  | userLocal {directory} : user = some directory →
      FileOf user project .userLocal (directory.join "settings.local.json")
  | project : FileOf user project .project ((project.join ".claude").join "settings.json")
  | projectLocal : FileOf user project .projectLocal ((project.join ".claude").join "settings.local.json")

/-- The files that a list of scopes asks for, each once and the weakest scope first. The empty list asks for
all of them. -/
structure Resolved (user : Option Path) (project : Path) (asked : List Scope)
    (located : List (Scope × Path)) : Prop where
  order : (located.map Prod.fst).Sublist [.user, .userLocal, .project, .projectLocal]
  once : (located.map Prod.fst).Nodup
  mem : ∀ scope path, (scope, path) ∈ located ↔
    (asked = [] ∨ scope ∈ asked) ∧ FileOf user project scope path

variable {user : Option Path} {project : Path} {asked : List Scope} {scope : Scope} {path : Path}

theorem path?_eq_some_iff : scope.path? user project = some path ↔ FileOf user project scope path := by
  rw [Scope.path?, Option.map_eq_some_iff]
  constructor
  · rintro ⟨directory, below, rfl⟩
    cases scope with
    | user => exact .user below
    | userLocal => exact .userLocal below
    | project =>
      obtain rfl := Option.some.inj below
      exact .project
    | projectLocal =>
      obtain rfl := Option.some.inj below
      exact .projectLocal
  · rintro (below | below | _ | _)
    · exact ⟨_, below, rfl⟩
    · exact ⟨_, below, rfl⟩
    · exact ⟨_, rfl, rfl⟩
    · exact ⟨_, rfl, rfl⟩

/-- A filter may wait until the elements are mapped, if the element can be told from its image. -/
theorem filter_filterMap_of_inverse {α β : Type} {f : α → Option β} {back : β → α}
    (inverse : ∀ a b, f a = some b → back b = a) (keep : α → Bool) (list : List α) :
    (list.filter keep).filterMap f = (list.filterMap f).filter fun b => keep (back b) := by
  rw [List.filterMap_filter, List.filter_filterMap]
  refine List.filterMap_congr fun a _ => ?_
  cases found : f a with
  | none => simp
  | some b => rw [Option.filter_some, inverse a b found]

theorem mem_locations : (scope, path) ∈ locations user project asked ↔
    (asked = [] ∨ scope ∈ asked) ∧ FileOf user project scope path := by
  have every : scope ∈ Scope.all := by
    cases scope <;> decide
  have chosen : (scope ∈ if asked.isEmpty = true then Scope.all else asked) ↔ asked = [] ∨ scope ∈ asked := by
    cases asked with
    | nil => simp [every]
    | cons first others => simp
  simp only [locations, List.mem_filterMap, List.mem_filter, decide_eq_true_eq, Option.map_eq_some_iff,
    path?_eq_some_iff, Prod.mk.injEq]
  constructor
  · rintro ⟨_, ⟨_, named⟩, _, file, rfl, rfl⟩
    exact ⟨chosen.mp named, file⟩
  · rintro ⟨named, file⟩
    exact ⟨scope, ⟨every, chosen.mpr named⟩, path, file, rfl, rfl⟩

/-- What is asked for are the locations of the named scopes among those of all scopes. -/
theorem locations_eq_filter (user : Option Path) (project : Path) (some : asked ≠ []) :
    locations user project asked =
      (locations user project []).filter fun entry => decide (entry.1 ∈ asked) := by
  have all : Scope.all.filter (fun scope => decide (scope ∈ Scope.all)) = Scope.all := by
    decide
  have filled : asked.isEmpty = false := List.isEmpty_eq_false_iff.mpr some
  rw [locations, locations, filled, List.isEmpty_nil, if_pos rfl, all]
  exact filter_filterMap_of_inverse (fst_of_location user project) (fun scope => decide (scope ∈ asked))
    Scope.all

theorem resolved_locations (user : Option Path) (project : Path) (asked : List Scope) :
    Resolved user project asked (locations user project asked) where
  order := scopes_locations user project asked
  once := (scopes_locations user project asked).nodup (by decide)
  mem _ _ := mem_locations

/-- The locations of a search depend on nothing but the set of the scopes that are asked for: each scope once,
the weakest first, with the file that it has. A scope that is asked for no longer loses its location, and the
others stay as they are. -/
theorem locations_of_scopes (user : Option Path) (project : Path) :
    (∀ asked, Resolved user project asked (locations user project asked)) ∧
    (∀ one other : List Scope, one ≠ [] → other ≠ [] → (∀ scope, scope ∈ one ↔ scope ∈ other) →
      locations user project one = locations user project other) ∧
    ∀ (asked : List Scope) (removed kept : Scope), kept ∈ asked → kept ≠ removed →
      locations user project (asked.filter (· ≠ removed)) =
        (locations user project asked).filter (·.1 ≠ removed) := by
  refine ⟨resolved_locations user project, ?_, ?_⟩
  · intro one other one' other' same
    simp only [locations_eq_filter user project one', locations_eq_filter user project other', same]
  · intro asked removed kept member different
    have kept' : kept ∈ asked.filter (· ≠ removed) :=
      List.mem_filter.mpr ⟨member, decide_eq_true different⟩
    rw [locations_eq_filter user project (List.ne_nil_of_mem kept'),
      locations_eq_filter user project (List.ne_nil_of_mem member), List.filter_filter]
    refine List.filter_congr fun entry _ => ?_
    rw [← Bool.decide_and]
    exact decide_eq_decide.mpr (by rw [List.mem_filter, decide_eq_true_eq, and_comm])

/-- A list that names a scope twice, and the stronger of two scopes first. -/
def repeatedScopes : List Scope := [.projectLocal, .user, .projectLocal]

theorem locations_of_scopes_repeated :
    locations (some "/cfg/") "" repeatedScopes = locations (some "/cfg/") "" [.user, .projectLocal] ∧
    locations (some "/cfg/") "" repeatedScopes =
      [(.user, "/cfg/settings.json"), (.projectLocal, ".claude/settings.local.json")] ∧
    locations (some "/cfg/") "" [.user] =
      (locations (some "/cfg/") "" repeatedScopes).filter (·.1 ≠ .projectLocal) := by
  obtain ⟨_, same, without⟩ := locations_of_scopes (some "/cfg/") ""
  have members : ∀ scope, scope ∈ repeatedScopes ↔ scope ∈ [.user, .projectLocal] := by
    intro scope
    cases scope <;> decide
  exact ⟨same _ _ (by decide) (by decide) members, rfl,
    without repeatedScopes .projectLocal .user (by decide) (by decide)⟩

end PermissionRules.Settings
