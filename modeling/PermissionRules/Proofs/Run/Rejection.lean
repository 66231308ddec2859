import PermissionRules.Proofs.Run.FixThenCheck

/-! Given targets that do not load. All loading comes before the first repair, so that a run which cannot
load one of its targets ends with the fault of the first of them, before anything is written, reported or
changed. -/
namespace PermissionRules.Run
open CommandLine Document Files Rules Settings

variable {store : Store} {environment : Environment} {selection : Selection}

/-- The first of the given inputs that does not load, with those before it. -/
theorem exists_first_unloadable {look : Path → Sight} {inputs : List String}
    (unloadable : ∃ input ∈ inputs, ∃ fault, (Target.ofInput input).load look = .error fault) :
    ∃ before input after fault, inputs = before ++ input :: after ∧
      (∀ earlier ∈ before, ∃ document, (Target.ofInput earlier).load look = .ok document) ∧
      (Target.ofInput input).load look = .error fault ∧
      loadGiven look (inputs.map Target.ofInput) = .error (.load (Target.ofInput input) fault) := by
  obtain ⟨input, member, fault, fails⟩ := unloadable
  have failing : skipped? look (Target.ofInput input) = some ⟨Target.ofInput input, fault⟩ :=
    skipped?_eq_some.mpr ⟨rfl, fails⟩
  have found : (inputs.findSome? (skipped? look ∘ Target.ofInput)).isSome = true :=
    List.findSome?_isSome_iff.mpr ⟨input, member, by rw [Function.comp_apply, failing]; rfl⟩
  obtain ⟨first, found⟩ := Option.isSome_iff_exists.mp found
  obtain ⟨before, input, after, split, fails, loads⟩ := List.findSome?_eq_some_iff.mp found
  obtain ⟨target, fails⟩ := skipped?_eq_some.mp fails
  refine ⟨before, input, after, first.fault, split, fun earlier member => ?_, fails, ?_⟩
  · exact skipped?_eq_none.mp (loads earlier member)
  · rw [loadGiven_eq, List.findSome?_map, found, ← target]

theorem diagnostics_of_error (store : Store) (error : RunError) (terminal : Bool) :
    Outcome.diagnostics terminal ⟨[], .error error, store⟩ = (Notice.failed error).render terminal := by
  simp [Outcome.diagnostics, Outcome.allNotices, String.join]

/-- When a given target does not load, every command on the selection fails with the first such target
and its own fault. Nothing is written to the output, the error is all that is said, and the store is as
it was. -/
theorem run_of_unloadable (unloadable : ∃ input ∈ selection.settings, ∃ fault,
      (Target.ofInput input).load (sightOf store) = .error fault) :
    ∃ before input after fault, selection.settings = before ++ input :: after ∧
      (∀ earlier ∈ before, ∃ document,
        (Target.ofInput earlier).load (sightOf store) = .ok document) ∧
      (Target.ofInput input).load (sightOf store) = .error fault ∧
      ∀ environment format command, WorksOn selection command →
        let error := RunError.load (Target.ofInput input) fault
        let outcome := run store environment ⟨format, command⟩
        outcome = ⟨[], .error error, store⟩ ∧ outcome.exitCode = 2 ∧ outcome.output = "" ∧
          ∀ terminal, outcome.diagnostics terminal = (Notice.failed error).render terminal := by
  obtain ⟨before, input, after, fault, split, loads, fails, stops⟩ :=
    exists_first_unloadable unloadable
  refine ⟨before, input, after, fault, split, loads, fails, ?_⟩
  intro environment format command works error outcome
  have given : selection.settings ≠ [] := by simp [split]
  have loading := load_given (sightOf store) environment given
  have result : (load (sightOf store) environment selection).result = .error error := by
    rw [loading]
    exact stops
  have ended : outcome = ⟨[], .error error, store⟩ := by
    simp only [outcome, run_of_load_error result works, loading]
    rfl
  rw [ended]
  exact ⟨rfl, rfl, rfl, diagnostics_of_error store error⟩

/-- Of these inputs only the third does not load. -/
def missingThird : Selection :=
  ⟨["s", "{}", "t", "./s"], [], none, none⟩

theorem load_inline_empty (look : Path → Sight) :
    (Target.ofInput "{}").load look = .ok (.object []) := by
  have inline : Target.ofInput "{}" = .inline (Value.object []).compact := by decide
  have wellFormed : (Value.object []).WellFormed := Value.wellFormed_object.mpr ⟨List.nodup_nil, nofun⟩
  rw [inline, Target.load, parseDocument, parse_compact wellFormed]
  rfl

theorem run_of_unloadable_missingThird : (repair unfixed).hasChanges = true ∧
    run unfixedStore ⟨none, none, "/"⟩ ⟨.json, .fix missingThird true⟩ =
      ⟨[], .error (.load (.file "t" none) (.file .notFound)), unfixedStore⟩ := by
  have held := load_of_mem (load_bothSpellings ⟨none, none, "/"⟩)
  have plain := held ⟨.file "s" none, unfixed⟩ (by simp)
  have dotted := held ⟨.file "./s" none, unfixed⟩ (by simp)
  have missing : (Target.ofInput "t").load (sightOf unfixedStore) = .error (.file .notFound) := rfl
  obtain ⟨before, input, after, fault, split, _, fails, runs⟩ :=
    @run_of_unloadable unfixedStore missingThird ⟨"t", by decide, .file .notFound, missing⟩
  have member : input ∈ missingThird.settings := by simp [split]
  have third : input = "t" := by
    rcases List.mem_cons.mp member with rfl | member
    · exact absurd (fails.symm.trans plain) nofun
    rcases List.mem_cons.mp member with rfl | member
    · exact absurd (fails.symm.trans (load_inline_empty _)) nofun
    rcases List.mem_cons.mp member with rfl | member
    · rfl
    obtain rfl := List.mem_singleton.mp member
    exact absurd (fails.symm.trans dotted) nofun
  subst third
  obtain rfl := Except.error.inj (fails.symm.trans missing)
  exact ⟨by decide, (runs ⟨none, none, "/"⟩ .json _ (.inr ⟨true, rfl⟩)).1⟩

end PermissionRules.Run
