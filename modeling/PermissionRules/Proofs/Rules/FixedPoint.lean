import PermissionRules.Proofs.Rules.Repaired

/-! The documents that a repair leaves alone. A list without issues is the list of its survivors, so that
putting it back where it was read changes nothing; and every repaired document is of this kind. -/
namespace PermissionRules.Rules
open Document

/-- An entry without an issue stays as it is. -/
theorem survivor?_of_issue? {category : Category} {entry : Value}
    (clean : issue? category entry = none) :
    (Verdict.ofEntry entry).survivor?.map Value.string = some entry := by
  rw [issue?_eq_verdict] at clean
  have judged := judged_ofEntry entry
  generalize Verdict.ofEntry entry = verdict at judged clean
  cases judged with
  | keep => rfl
  | migrate | refuse | notText => contradiction

theorem survivors_of_clean {category : Category} {entries : List Value}
    (clean : ∀ entry ∈ entries, issue? category entry = none) : survivors entries = entries := by
  induction entries with
  | nil => rfl
  | cons entry rest ih =>
    obtain ⟨first, others⟩ := List.forall_mem_cons.mp clean
    simp only [survivors, List.filterMap_cons, survivor?_of_issue? first] at ih ⊢
    rw [ih others]

theorem repairedDocument_of_normal {members permissions : Ordered String Value}
    (held : members.get? permissionsKey = some (.object permissions))
    (lists : ∀ category : Category, ∃ entries,
      permissions.get? category.key = some (.array entries))
    (clean : issues (.object members) = []) :
    repairedDocument (.object members) = .object members := by
  have held' : (Value.object members).get? permissionsKey = some (.object permissions) := held
  have same : repairedPermissions (.ofDocument (.object members)) permissions = permissions := by
    rw [repairedPermissions_eq_putAll]
    refine Ordered.putAll_of_get? fun entry member => ?_
    obtain ⟨category, _, rfl⟩ := List.mem_map.mp member
    obtain ⟨entries, list⟩ := lists category
    have read : (Lists.ofDocument (.object members)).get category = entries := by
      rw [get_ofDocument, read_of_get? held' list]
    rw [survivors_of_clean (issues_eq_nil.mp clean category), read]
    exact list
  have root : (Value.object members).object? = some members := rfl
  have inner : (Value.object permissions).object? = some permissions := rfl
  rw [repairedDocument, held', root, Option.bind_some, inner, Option.getD_some, Option.getD_some, same,
    Ordered.put_of_get? held]

/-- Nothing is left to repair in a repaired document. -/
theorem repair_repairedDocument (document : Value) :
    repair (repairedDocument document) = ⟨[], [], repairedDocument document⟩ := by
  have unchanged := Repair.hasChanges_eq_false.mp (hasChanges_repairedDocument document)
  have kept : (repair (repairedDocument document)).document = repairedDocument document :=
    repairedDocument_of_normal (get?_repairedDocument document)
      (fun category => ⟨_, get?_repairedPermissions _ _ category⟩) (issues_repairedDocument document)
  have parts : repair (repairedDocument document) = ⟨(repair (repairedDocument document)).migrated,
      (repair (repairedDocument document)).removed, (repair (repairedDocument document)).document⟩ := rfl
  rw [parts, unchanged.1, unchanged.2, kept]

/-- A repair leaves every repaired document as it is, key for key. The documents that it leaves as they
are have their permissions with all three lists, and no issues. -/
theorem repair_fixedPoint (document : Value) :
    repairedDocument (repairedDocument document) = repairedDocument document ∧
    (repair (repairedDocument document)).migrated = [] ∧
    (repair (repairedDocument document)).removed = [] ∧
    ((repair document).document = document ↔
      ∃ members permissions, document = .object members ∧
        Ordered.get? members permissionsKey = some (.object permissions) ∧
        (∀ category : Category, ∃ entries,
          Ordered.get? permissions category.key = some (.array entries)) ∧
        issues document = []) := by
  have lists : ∀ category : Category, ∃ entries,
      Ordered.get? (permissionsAfter document) category.key = some (.array entries) :=
    fun category => ⟨_, get?_repairedPermissions _ _ category⟩
  have unchanged := hasChanges_repairedDocument document
  simp only [Repair.hasChanges, Bool.or_eq_false_iff, Bool.not_eq_false', List.isEmpty_iff] at unchanged
  refine ⟨?_, unchanged.1, unchanged.2, ?_, ?_⟩
  · exact repairedDocument_of_normal (get?_repairedDocument document) lists
      (issues_repairedDocument document)
  · intro same
    have same : document = repairedDocument document := same.symm
    refine ⟨_, permissionsAfter document, same, get?_repairedDocument document, lists, ?_⟩
    rw [same]
    exact issues_repairedDocument document
  · rintro ⟨members, permissions, rfl, held, lists, clean⟩
    exact repairedDocument_of_normal held lists clean

end PermissionRules.Rules
