import PermissionRules.Proofs.Run.Diagnostics
import PermissionRules.Proofs.Run.FixThenCheck
import PermissionRules.Proofs.Settings.Locations

/-! What a selection loads. Given inputs load all or not at all. Of the files that are found in the scopes,
each is loaded or skipped by itself, in the order of the scopes, and only when none loads there is an error.
Loading looks at the store and leaves it as it is, so that whatever is done with the documents starts from
there. -/
namespace PermissionRules.Run
open CommandLine Document Files Settings

/-- Loading of given inputs: one document for each of them, in their order, if they all load. -/
structure LoadsGiven (store : Store) (inputs : List String) (loading : Loading) : Prop where
  isOk : (∃ loaded, loading.result = .ok loaded) ↔
    ∀ input ∈ inputs, ∃ document, (Target.ofInput input).load (sightOf store) = .ok document
  pairs : ∀ loaded, loading.result = .ok loaded → List.Forall₂ (fun input one =>
    one.target = Target.ofInput input ∧ one.target.load (sightOf store) = .ok one.document) inputs loaded
  unskipped : loading.skipped = []

/-- Loading of what is found at the locations of scopes: each file that loads, if any does, and a notice for
each that does not. -/
structure LoadsFound (store : Store) (located : List (Scope × Path)) (loading : Loading) : Prop where
  order : (located.map Prod.fst).Sublist Scope.all
  isOk : (∃ loaded, loading.result = .ok loaded) ↔
    ∃ target document, Found store located target ∧ target.load (sightOf store) = .ok document
  loaded : ∀ loaded, loading.result = .ok loaded →
    (∀ one, one ∈ loaded ↔
      Found store located one.target ∧ one.target.load (sightOf store) = .ok one.document) ∧
    (loaded.map (·.target.scope?)).Sublist (Scope.all.map some)
  skipped : (∀ one, one ∈ loading.skipped ↔
      Found store located one.target ∧ one.target.load (sightOf store) = .error one.fault) ∧
    (loading.skipped.map (·.target.scope?)).Sublist (Scope.all.map some)
  /-- A file that does not load has no part in what else is loaded or skipped. -/
  apart : ∀ before scope path after fault, located = before ++ (scope, path) :: after →
    store.exists? path = .ok true → (Target.file path (some scope)).load (sightOf store) = .error fault →
    let others := loadFound (sightOf store) (before ++ after)
    (∀ loaded, loading.result = .ok loaded ↔ others.result = .ok loaded) ∧
      ∃ earlier later, others.skipped = earlier ++ later ∧
        loading.skipped = earlier ++ ⟨.file path (some scope), fault⟩ :: later
  error : ∀ error, loading.result = .error error → error = .noTargets (located.map Prod.snd) ∧
    error.message =
      "No settings files found (looked in: " ++ ", ".intercalate (located.map Prod.snd) ++ ")"

/-- A run gives the notices of what was skipped first; then it ends with the error of loading, or goes on with
the loaded documents from the store as it was. What it says begins with a warning for each target that was
skipped. -/
structure LeavesStore (store : Store) (environment : Environment) (selection : Selection)
    (loading : Loading) : Prop where
  failed : ∀ error, loading.result = .error error → ∀ format command, WorksOn selection command →
    run store environment ⟨format, command⟩ = ⟨loading.skippedNotices, .error error, store⟩
  checked : ∀ loaded, loading.result = .ok loaded → ∀ format,
    run store environment ⟨format, .check selection⟩ =
      ⟨loading.skippedNotices, (check format loaded).ending, store⟩
  fixed : ∀ loaded, loading.result = .ok loaded → ∀ format write,
    let outcome := perform store (fix format write loaded).ending (fix format write loaded).steps
    run store environment ⟨format, .fix selection write⟩ =
      { outcome with notices := loading.skippedNotices ++ outcome.notices }
  failedText : ∀ error, loading.result = .error error → ∀ format command, WorksOn selection command →
    ∀ terminal, (run store environment ⟨format, command⟩).diagnostics terminal =
      warningsText terminal (loading.skipped.map Skipped.warning) ++ errorText terminal error.message
  checkedText : ∀ loaded, loading.result = .ok loaded → ∀ format terminal,
    (run store environment ⟨format, .check selection⟩).diagnostics terminal =
      warningsText terminal (loading.skipped.map Skipped.warning)
  fixedText : ∀ loaded, loading.result = .ok loaded → ∀ format write terminal,
    (run store environment ⟨format, .fix selection write⟩).diagnostics terminal =
      warningsText terminal (loading.skipped.map Skipped.warning) ++
        warningsText terminal (loaded.flatMap (Loaded.warnings write))

variable {store : Store} {environment : Environment} {selection : Selection}
variable {located : List (Scope × Path)} {target : Target} {fault : LoadFault}

/-! ### Given inputs -/

theorem loadGiven_isOk {look : Path → Sight} {targets : List Target} :
    (∃ loaded, loadGiven look targets = .ok loaded) ↔
      ∀ target ∈ targets, ∃ document, target.load look = .ok document := by
  constructor
  · rintro ⟨loaded, loads⟩
    exact (loadGiven_eq_ok.mp loads).1
  · intro each
    exact ⟨_, loadGiven_eq_ok.mpr ⟨each, rfl⟩⟩

theorem forall₂_loadable? {look : Path → Sight} {targets : List Target}
    (each : ∀ target ∈ targets, ∃ document, target.load look = .ok document) :
    List.Forall₂ (fun target one => loadable? look target = some one) targets
      (targets.filterMap (loadable? look)) := by
  induction targets with
  | nil => exact .nil
  | cons target rest ih =>
    obtain ⟨⟨document, loads⟩, others⟩ := List.forall_mem_cons.mp each
    have head : loadable? look target = some ⟨target, document⟩ := loadable?_eq_some.mpr ⟨rfl, loads⟩
    rw [List.filterMap_cons_some head]
    exact .cons head (ih others)

theorem loadsGiven_load (environment : Environment) (given : selection.settings ≠ []) :
    LoadsGiven store selection.settings (load (sightOf store) environment selection) := by
  rw [load_given (sightOf store) environment given]
  constructor
  · rw [loadGiven_isOk, List.forall_mem_map]
  · intro loaded loads
    obtain ⟨each, rfl⟩ := loadGiven_eq_ok.mp loads
    refine (List.forall₂_map_left_iff.mp (forall₂_loadable? each)).imp ?_
    intro input one found
    obtain ⟨target, loads⟩ := loadable?_eq_some.mp found
    exact ⟨target, target ▸ loads⟩
  · rfl

/-! ### Files in the scopes -/

theorem loadFound_eq_ok {look : Path → Sight} {loaded : List Loaded} :
    (loadFound look located).result = .ok loaded ↔
      loaded ≠ [] ∧ (present look located).filterMap (loadable? look) = loaded := by
  simp only [loadFound]
  split
  case isTrue none =>
    rw [List.isEmpty_iff] at none
    rw [none]
    constructor
    · intro same
      contradiction
    · rintro ⟨filled, rfl⟩
      contradiction
  case isFalse some =>
    rw [List.isEmpty_iff] at some
    rw [Except.ok.injEq]
    constructor
    · rintro rfl
      exact ⟨some, rfl⟩
    · exact And.right

theorem eq_of_loadFound_error {look : Path → Sight} {error : RunError}
    (fails : (loadFound look located).result = .error error) :
    error = .noTargets (located.map Prod.snd) := by
  simp only [loadFound] at fails
  split at fails
  · exact (Except.error.inj fails).symm
  · contradiction

theorem loadable?_eq_none {look : Path → Sight} (fails : target.load look = .error fault) :
    loadable? look target = none := by
  rw [loadable?, fails]

theorem loadFound_apart {before after : List (Scope × Path)} {scope : Scope} {path : Path}
    (there : store.exists? path = .ok true)
    (fails : (Target.file path (some scope)).load (sightOf store) = .error fault) :
    let all := loadFound (sightOf store) (before ++ (scope, path) :: after)
    let others := loadFound (sightOf store) (before ++ after)
    (∀ loaded, all.result = .ok loaded ↔ others.result = .ok loaded) ∧
      ∃ earlier later, others.skipped = earlier ++ later ∧
        all.skipped = earlier ++ ⟨.file path (some scope), fault⟩ :: later := by
  intro all others
  have split : present (sightOf store) (before ++ (scope, path) :: after) =
      present (sightOf store) before ++ .file path (some scope) :: present (sightOf store) after := by
    rw [present_append, present_cons (present_sightOf.mpr there)]
  constructor
  · intro loaded
    simp only [all, others, loadFound_eq_ok, split, present_append, List.filterMap_append,
      List.filterMap_cons_none (loadable?_eq_none fails)]
  · have told : skipped? (sightOf store) (.file path (some scope)) = some ⟨.file path (some scope), fault⟩ :=
      skipped?_eq_some.mpr ⟨rfl, fails⟩
    refine ⟨(present (sightOf store) before).filterMap (skipped? (sightOf store)),
      (present (sightOf store) after).filterMap (skipped? (sightOf store)), ?_, ?_⟩
    · simp only [others, loadFound, present_append, List.filterMap_append]
    · simp only [all, loadFound, split, List.filterMap_append, List.filterMap_cons_some told]

theorem loadsFound_loadFound (order : (located.map Prod.fst).Sublist Scope.all) :
    LoadsFound store located (loadFound (sightOf store) located) where
  order := order
  isOk := by
    simp only [loadFound_eq_ok]
    constructor
    · rintro ⟨loaded, filled, rfl⟩
      obtain ⟨one, member⟩ := List.exists_mem_of_ne_nil _ filled
      obtain ⟨target, found, loads⟩ := List.mem_filterMap.mp member
      obtain ⟨rfl, loads⟩ := loadable?_eq_some.mp loads
      exact ⟨one.target, one.document, mem_present.mp found, loads⟩
    · rintro ⟨target, document, found, loads⟩
      have member : ⟨target, document⟩ ∈
          (present (sightOf store) located).filterMap (loadable? (sightOf store)) :=
        List.mem_filterMap.mpr ⟨target, mem_present.mpr found, loadable?_eq_some.mpr ⟨rfl, loads⟩⟩
      exact ⟨_, List.ne_nil_of_mem member, rfl⟩
  loaded := by
    intro loaded loads
    obtain ⟨_, rfl⟩ := loadFound_eq_ok.mp loads
    have told : ∀ target one, loadable? (sightOf store) target = some one ↔ _ :=
      fun target one => loadable?_eq_some
    exact ⟨fun one => mem_filterMap_present told, scopes_filterMap_present told order _⟩
  skipped := by
    have told : ∀ target one, skipped? (sightOf store) target = some one ↔ _ :=
      fun target one => skipped?_eq_some
    exact ⟨fun one => mem_filterMap_present told, scopes_filterMap_present told order _⟩
  apart := by
    rintro before scope path after fault rfl there fails
    exact loadFound_apart there fails
  error := by
    intro error fails
    obtain rfl := eq_of_loadFound_error fails
    exact ⟨rfl, rfl⟩

/-! ### Runs -/

theorem leavesStore_load (store : Store) (environment : Environment) (selection : Selection) :
    LeavesStore store environment selection (load (sightOf store) environment selection) where
  failed := by
    intro error fails format command works
    exact run_of_load_error fails works format
  checked := by
    intro loaded loads format
    exact run_check_eq loads format
  fixed := by
    intro loaded loads format write
    simp only [run, plan, Loading.andThen, loads, Loading.notices_eq, perform_notify]
  failedText := by
    intro error fails format command works terminal
    exact diagnostics_of_load_error fails works format terminal
  checkedText := by
    intro loaded loads format terminal
    exact diagnostics_check loads format terminal
  fixedText := by
    intro loaded loads format write terminal
    rw [diagnostics_fix loads, fixWarnings, warningsText_append]

/-- Given inputs load all or not at all, each as its own document in its place, whatever the scopes and
directories are. Without inputs the files that exist in the scopes are loaded or skipped one by one, in the
order of the scopes, and when none loads the error names every path that was searched. The store is left as
it is. -/
theorem load_exactly (store : Store) (environment : Environment) (selection : Selection) :
    let loading := load (sightOf store) environment selection
    (selection.settings ≠ [] → LoadsGiven store selection.settings loading ∧
      ∀ environment' selection', selection'.settings = selection.settings →
        load (sightOf store) environment' selection' = loading) ∧
    (selection.settings = [] → LoadsFound store (searched environment selection) loading) ∧
    LeavesStore store environment selection loading := by
  intro loading
  refine ⟨?_, ?_, leavesStore_load store environment selection⟩
  · intro given
    refine ⟨loadsGiven_load environment given, ?_⟩
    intro environment' selection' same
    have given' : selection'.settings ≠ [] := same ▸ given
    simp only [loading, load_given _ _ given, load_given _ _ given', same]
  · intro search
    have found : loading = loadFound (sightOf store) (searched environment selection) :=
      if_pos (List.isEmpty_iff.mpr search)
    rw [found]
    exact loadsFound_loadFound (scopes_locations _ _ _)

/-- A file of a project, and a directory in the place of a file of the user. -/
def scopesStore : Store where
  workingDirectory := []
  nodes := [
    ([['u']], .directory),
    (["settings.json".toList, ['u']], .directory),
    ([['p']], .directory),
    ([".claude".toList, ['p']], .directory),
    (["settings.json".toList, ".claude".toList, ['p']], .file unfixed.prettyFile.toUTF8)]

def scopesEnvironment : Environment :=
  ⟨none, some "/u", "/p"⟩

def allScopes : Selection :=
  ⟨[], [], none, none⟩

def allLocations : List (Scope × Path) :=
  [(.user, "/u/settings.json"), (.userLocal, "/u/settings.local.json"),
    (.project, "/p/.claude/settings.json"), (.projectLocal, "/p/.claude/settings.local.json")]

theorem load_exactly_allScopes : allScopes.settings = [] ∧
    searched scopesEnvironment allScopes = allLocations ∧
    (∃ loaded, (load (sightOf scopesStore) scopesEnvironment allScopes).result = .ok loaded ∧
      ⟨.file "/p/.claude/settings.json" (some .project), unfixed⟩ ∈ loaded) ∧
    ⟨.file "/u/settings.json" (some .user), .file .isADirectory⟩ ∈
      (load (sightOf scopesStore) scopesEnvironment allScopes).skipped ∧
    bothSpellings.settings ≠ [] ∧
    ∃ loaded, (load (sightOf unfixedStore) scopesEnvironment bothSpellings).result = .ok loaded ∧
      loaded.length = 2 := by
  have searched' : searched scopesEnvironment allScopes = allLocations := by decide +kernel
  have found := (load_exactly scopesStore scopesEnvironment allScopes).2.1 rfl
  have given := ((load_exactly unfixedStore scopesEnvironment bothSpellings).1 (by decide)).1
  rw [searched'] at found
  have file : Found scopesStore allLocations (.file "/p/.claude/settings.json" (some .project)) :=
    .file (by decide) rfl
  have leads : scopesStore.locate "/p/.claude/settings.json" =
      .ok ["settings.json".toList, ".claude".toList, ['p']] := rfl
  have loads : (Target.file "/p/.claude/settings.json" (some .project)).load (sightOf scopesStore) =
      .ok unfixed := (load_of_file rfl leads rfl).trans (decode_toUTF8 unfixed_wellFormed)
  have directory : Found scopesStore allLocations (.file "/u/settings.json" (some .user)) :=
    .file (by decide) rfl
  have fails : (Target.file "/u/settings.json" (some .user)).load (sightOf scopesStore) =
      .error (.file .isADirectory) := rfl
  obtain ⟨loaded, ok⟩ := found.isOk.mpr ⟨_, _, file, loads⟩
  have pairs := given.pairs _ (load_bothSpellings scopesEnvironment)
  exact ⟨rfl, searched', ⟨loaded, ok, ((found.loaded loaded ok).1 _).mpr ⟨file, loads⟩⟩,
    (found.skipped.1 _).mpr ⟨directory, fails⟩, by decide, _, load_bothSpellings scopesEnvironment,
    pairs.length_eq.symm⟩

end PermissionRules.Run
