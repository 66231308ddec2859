import PermissionRules.Proofs.Rules.ByCategory

/-! The patterns behind migrations. A migration holds all of its pattern, which is had back by undoing the one
change. So deprecated patterns that differ are migrated to patterns that differ, and a repair that records one
migration for each of them merges none with another. -/
namespace PermissionRules

namespace Pattern
variable {pattern one other migrated : String}

/-- The pattern that a migration was made of: its third character from the end is a colon again. -/
def original (migrated : String) : String :=
  .ofList (migrated.toList.set (migrated.length - 3) ':')

theorem Migrates.original_eq (migrates : Migrates pattern migrated) : original migrated = pattern := by
  obtain ⟨before, old, new⟩ := migrates.toList
  have position : migrated.length - 3 = before.length := by
    rw [← String.length_toList, new, List.length_append]
    rfl
  rw [original, position, new, List.set_append_right _ _ (Nat.le_refl _), Nat.sub_self, List.set_cons_zero,
    ← old, String.ofList_toList]

theorem original_of_migrate? (rewritten : migrate? pattern = some migrated) : original migrated = pattern :=
  (migrate?_eq_some_iff.mp rewritten).2.original_eq

theorem eq_of_migrate? (one' : migrate? one = some migrated) (other' : migrate? other = some migrated) :
    one = other :=
  (original_of_migrate? one').symm.trans (original_of_migrate? other')

end Pattern

namespace Rules
open Document

/-- The pattern of an entry, if it is deprecated. -/
def deprecated? (entry : Value) : Option String :=
  entry.string?.filter fun pattern => Pattern.fault? pattern = some .deprecatedColonStar

/-- The migrations that a repair records for a category. -/
def recorded (document : Value) (category : Category) : List Migration :=
  (repair document).migrated.filter (·.category = category)

variable {document : Value} {category : Category} {migration : Migration}

theorem recorded_eq (document : Value) (category : Category) : recorded document category =
    ((Lists.ofDocument document).get category).filterMap fun entry =>
      (Verdict.ofEntry entry).migration? category := by
  rw [recorded, migrated_eq_told, Lists.told_filter tagged_migration?]

theorem pattern_migration? (category : Category) (entry : Value) :
    ((Verdict.ofEntry entry).migration? category).map (·.pattern) = deprecated? entry := by
  have judged := judged_ofEntry entry
  generalize Verdict.ofEntry entry = verdict at judged
  cases judged with
  | keep valid => simp [Verdict.migration?, deprecated?, Value.string?, Option.filter_some, valid]
  | migrate old => simp [Verdict.migration?, deprecated?, Value.string?, Option.filter_some, old]
  | refuse refused current =>
    simp [Verdict.migration?, deprecated?, Value.string?, Option.filter_some, refused, current]
  | notText other =>
    cases entry with
    | string text => exact absurd rfl (other text)
    | _ => rfl

/-- Each deprecated pattern of a list has its own migration, in the order of the list. -/
theorem map_pattern_recorded (document : Value) (category : Category) :
    (recorded document category).map (·.pattern) =
      ((Lists.ofDocument document).get category).filterMap deprecated? := by
  rw [recorded_eq, List.map_filterMap]
  exact List.filterMap_congr fun entry _ => pattern_migration? category entry

theorem migrate?_of_migration? {entry : Value}
    (told : (Verdict.ofEntry entry).migration? category = some migration) :
    Pattern.migrate? migration.pattern = some migration.migrated := by
  have judged := judged_ofEntry entry
  generalize Verdict.ofEntry entry = verdict at judged told
  cases judged with
  | migrate _ rewritten =>
    obtain rfl := Option.some.inj told
    exact rewritten
  | keep | refuse | notText => contradiction

theorem migrate?_of_mem_migrated (member : migration ∈ (repair document).migrated) :
    Pattern.migrate? migration.pattern = some migration.migrated := by
  obtain ⟨_, _, told⟩ := List.mem_filterMap.mp member
  exact migrate?_of_migration? told

/-- Two migrations are of one pattern if and only if they are to one pattern. -/
theorem pattern_eq_iff {one other : Migration} (one' : one ∈ (repair document).migrated)
    (other' : other ∈ (repair document).migrated) :
    one.pattern = other.pattern ↔ one.migrated = other.migrated := by
  have first := migrate?_of_mem_migrated one'
  have second := migrate?_of_mem_migrated other'
  constructor
  · intro same
    exact Option.some.inj (first.symm.trans (same ▸ second))
  · intro same
    exact Pattern.eq_of_migrate? first (same ▸ second)

theorem nodup_pattern_iff (document : Value) (category : Category) :
    ((recorded document category).map (·.pattern)).Nodup ↔
      ((recorded document category).map (·.migrated)).Nodup := by
  simp only [List.Nodup, List.pairwise_map]
  refine List.Pairwise.iff_of_mem fun one' other' => ?_
  exact not_congr (pattern_eq_iff (List.mem_of_mem_filter one') (List.mem_of_mem_filter other'))

/-- No two patterns have one migration. So a repair records as many different migrations for a list as it
holds deprecated patterns, and gives each of these back from what it was migrated to. -/
theorem migration_injective :
    (∀ one other migrated, Pattern.migrate? one = some migrated →
      Pattern.migrate? other = some migrated → one = other) ∧
    ∀ document category,
      (recorded document category).map (·.pattern) =
        ((Lists.ofDocument document).get category).filterMap deprecated? ∧
      ((((Lists.ofDocument document).get category).filterMap deprecated?).Nodup ↔
        ((recorded document category).map (·.migrated)).Nodup) ∧
      ∀ migration ∈ recorded document category,
        Pattern.migrate? migration.pattern = some migration.migrated ∧
        Pattern.original migration.migrated = migration.pattern := by
  refine ⟨fun one other migrated => Pattern.eq_of_migrate?, fun document category => ?_⟩
  have patterns := map_pattern_recorded document category
  refine ⟨patterns, patterns ▸ nodup_pattern_iff document category, ?_⟩
  intro migration member
  have rewritten := migrate?_of_mem_migrated (List.mem_of_mem_filter member)
  exact ⟨rewritten, Pattern.original_of_migrate? rewritten⟩

/-- Three deprecated patterns that nearly agree, among other entries. -/
def nearlyAlike : Value :=
  .object [("permissions", .object [("allow", .array [.string "A(b:*)", .null, .string "A(b:*:*)",
    .string "A(b *)", .string "A(b)(:*)"])])]

theorem migration_injective_nearlyAlike :
    ((recorded nearlyAlike .allow).map (·.migrated)).Nodup ∧
    (recorded nearlyAlike .allow).map (·.migrated) = ["A(b *)", "A(b:* *)", "A(b)( *)"] ∧
    ∀ pattern, Pattern.migrate? pattern = some "A(b:* *)" → pattern = "A(b:*:*)" := by
  obtain ⟨injective, repaired⟩ := migration_injective
  obtain ⟨_, distinct, _⟩ := repaired nearlyAlike .allow
  refine ⟨distinct.mp (by decide), by decide, fun pattern rewritten => ?_⟩
  exact injective _ _ _ rewritten (by decide)

end Rules
end PermissionRules
