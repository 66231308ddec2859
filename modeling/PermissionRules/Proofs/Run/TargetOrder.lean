import PermissionRules.Proofs.Run.Rewriting

/-! The order of given targets. Each target loads by itself and from the store as it was at the beginning,
and targets that lead to one file write the same text to it. So neither the order in which the inputs are
given nor their repetition has a part in what a run of fixes does. -/
namespace PermissionRules.Run
open CommandLine Document Files Report Rules Settings

variable {look : Path → Sight} {store : Store} {environment : Environment} {selection : Selection}
variable {loaded loaded' : List Loaded} {write : Bool}

/-- Inputs with the same members load the same documents. -/
theorem load_of_same_members {settings : List String}
    (same : ∀ input, input ∈ settings ↔ input ∈ selection.settings)
    (loads : (load look environment selection).result = .ok loaded) :
    ∃ loaded', (load look environment { selection with settings }).result = .ok loaded' ∧
      ∀ one, one ∈ loaded ↔ one ∈ loaded' := by
  by_cases given : selection.settings = []
  · -- Without inputs both runs look in the scopes, and these are the same.
    have none : settings = selection.settings := by
      rw [given, List.eq_nil_iff_forall_not_mem]
      intro input member
      rw [same, given] at member
      contradiction
    rw [none]
    exact ⟨loaded, loads, fun _ => Iff.rfl⟩
  · have given' : settings ≠ [] := by
      obtain ⟨input, member⟩ := List.exists_mem_of_ne_nil _ given
      exact List.ne_nil_of_mem ((same input).mpr member)
    have same_targets : ∀ target,
        target ∈ settings.map Target.ofInput ↔ target ∈ selection.settings.map Target.ofInput := by
      intro target
      simp only [List.mem_map, same]
    rw [load_given look environment given] at loads
    obtain ⟨each, rfl⟩ := loadGiven_eq_ok.mp loads
    refine ⟨(settings.map Target.ofInput).filterMap (loadable? look), ?_, fun one => ?_⟩
    · rw [load_given look environment given']
      refine loadGiven_eq_ok.mpr ⟨fun target member => ?_, rfl⟩
      exact each target ((same_targets target).mp member)
    · simp only [List.mem_filterMap, same_targets]

/-- What a target loads is determined by the target. -/
theorem eq_of_target {one other : Loaded} (loads : one.target.load look = .ok one.document)
    (loads' : other.target.load look = .ok other.document) (same : one.target = other.target) :
    one = other := by
  obtain ⟨target, document⟩ := one
  obtain ⟨target', document'⟩ := other
  obtain rfl : target = target' := same
  obtain rfl : document = document' := Except.ok.inj (loads.symm.trans loads')
  rfl

/-- The same documents leave the same store. -/
theorem putAll_edits_congr
    (loads : ∀ one ∈ loaded, one.target.load (sightOf store) = .ok one.document)
    (same : ∀ one, one ∈ loaded ↔ one ∈ loaded') :
    store.putAll (edits store write loaded) = store.putAll (edits store write loaded') := by
  have same_edits : ∀ entry, entry ∈ edits store write loaded ↔ entry ∈ edits store write loaded' := by
    intro entry
    simp only [edits, List.mem_filterMap, same]
  rw [Store.putAll, Store.putAll,
    Ordered.putAll_congr (held_edits loads) (consistent_edits loads) same_edits]

theorem run_fix_isOk {format : Format} :
    (∃ ending, (run store environment ⟨format, .fix selection write⟩).result = .ok ending) ↔
      ∃ loaded, (load (sightOf store) environment selection).result = .ok loaded := by
  constructor
  · rintro ⟨ending, ran⟩
    exact load_of_run_fix ran
  · rintro ⟨loaded, loads⟩
    rw [run_fix_eq loads]
    exact ⟨_, rfl⟩

/-- Two lists of inputs with the same members, in any order and with any repetitions: the run of fixes
ends with a report for one list if it does for the other, the stores are equal then, and both runs load
the same targets and report the same of each. -/
theorem fix_of_same_members {settings : List String}
    (same : ∀ input, input ∈ settings ↔ input ∈ selection.settings) (format format' : Format) :
    let outcome := run store environment ⟨format, .fix selection true⟩
    let outcome' := run store environment ⟨format', .fix { selection with settings } true⟩
    ((∃ ending, outcome.result = .ok ending) ↔ ∃ ending, outcome'.result = .ok ending) ∧
    ((∃ ending, outcome.result = .ok ending) → outcome.store = outcome'.store ∧
      ∃ loaded loaded', (load (sightOf store) environment selection).result = .ok loaded ∧
        (load (sightOf store) environment { selection with settings }).result = .ok loaded' ∧
        outcome.result = .ok ⟨Report.fixes format (loaded.map (Loaded.fix true)), .clean⟩ ∧
        outcome'.result = .ok ⟨Report.fixes format' (loaded'.map (Loaded.fix true)), .clean⟩ ∧
        (∀ target, target ∈ loaded.map Loaded.target ↔ target ∈ loaded'.map Loaded.target) ∧
        ∀ one ∈ loaded, ∀ other ∈ loaded', one.target = other.target →
          one.fix true = other.fix true) := by
  intro outcome outcome'
  constructor
  · rw [run_fix_isOk, run_fix_isOk]
    constructor
    · rintro ⟨loaded, loads⟩
      obtain ⟨loaded', loads', _⟩ := load_of_same_members same loads
      exact ⟨loaded', loads'⟩
    · rintro ⟨loaded, loads⟩
      obtain ⟨loaded', loads', _⟩ := load_of_same_members (fun input => (same input).symm) loads
      exact ⟨loaded', loads'⟩
  · intro ends
    obtain ⟨loaded, loads⟩ := run_fix_isOk.mp ends
    obtain ⟨loaded', loads', members⟩ := load_of_same_members same loads
    have ended : outcome = _ := run_fix_eq loads format true
    have ended' : outcome' = _ := run_fix_eq loads' format' true
    refine ⟨?_, loaded, loaded', loads, loads', ?_, ?_, ?_, ?_⟩
    · rw [ended, ended']
      exact putAll_edits_congr (load_of_mem loads) members
    · rw [ended]
    · rw [ended']
    · intro target
      simp only [List.mem_map, members]
    · intro one member other member' target
      rw [eq_of_target (load_of_mem loads one member) (load_of_mem loads' other member') target]

theorem fix_of_same_members_bothSpellings :
    (∃ ending, (run unfixedStore ⟨none, none, "/"⟩ ⟨.text, .fix bothSpellings true⟩).result =
      .ok ending) ∧
    (run unfixedStore ⟨none, none, "/"⟩ ⟨.text, .fix bothSpellings true⟩).store =
      (run unfixedStore ⟨none, none, "/"⟩
        ⟨.json, .fix { bothSpellings with settings := ["./s", "s", "./s"] } true⟩).store := by
  have same : ∀ input, input ∈ ["./s", "s", "./s"] ↔ input ∈ bothSpellings.settings := by
    intro input
    simp only [bothSpellings, List.mem_cons, List.not_mem_nil, or_false]
    tauto
  have ends : ∃ ending, (run unfixedStore ⟨none, none, "/"⟩
      ⟨.text, .fix bothSpellings true⟩).result = .ok ending :=
    run_fix_isOk.mpr ⟨_, load_bothSpellings ⟨none, none, "/"⟩⟩
  exact ⟨ends, ((fix_of_same_members same .text .json).2 ends).1⟩

end PermissionRules.Run
