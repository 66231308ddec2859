import PermissionRules.Proofs.Document.ReadBack
import PermissionRules.Proofs.Rules.Repaired

/-! How a repair divides the lists of a document. Every entry goes to the place of its verdict, one entry
after the other, so that nothing is lost, moved to another category or put in another order. -/
namespace PermissionRules.Rules
open Document

/-- The entries of a category beside the patterns that stand in its repaired list and the migrations and
removals that are recorded for it. -/
inductive Divides (category : Category) :
    List Value → List String → List Migration → List Removal → Prop where
  | nil : Divides category [] [] [] []
  | keep {pattern entry entries kept migrated removed} : Judged entry (.keep pattern) →
      Divides category entries kept migrated removed →
      Divides category (entry :: entries) (pattern :: kept) migrated removed
  | migrate {pattern rewritten entry entries kept migrated removed} :
      Judged entry (.migrate pattern rewritten) →
      Divides category entries kept migrated removed →
      Divides category (entry :: entries) (rewritten :: kept)
        (⟨pattern, rewritten, category⟩ :: migrated) removed
  | drop {pattern fault entry entries kept migrated removed} :
      Judged entry (.drop pattern fault) →
      Divides category entries kept migrated removed →
      Divides category (entry :: entries) kept migrated (⟨pattern, category, fault⟩ :: removed)

theorem Divides.length {category : Category} {entries : List Value} {kept : List String}
    {migrated : List Migration} {removed : List Removal}
    (divides : Divides category entries kept migrated removed) :
    kept.length + removed.length = entries.length := by
  induction divides with
  | nil => rfl
  | keep _ _ ih | migrate _ _ ih | drop _ _ ih =>
    simp only [List.length_cons]
    omega

/-- The verdicts of the entries divide them. -/
theorem divides_verdicts (category : Category) (entries : List Value) :
    Divides category entries
      (entries.filterMap fun entry => (Verdict.ofEntry entry).survivor?)
      (entries.filterMap fun entry => (Verdict.ofEntry entry).migration? category)
      (entries.filterMap fun entry => (Verdict.ofEntry entry).removal? category) := by
  induction entries with
  | nil => exact .nil
  | cons entry rest ih =>
    have judged := judged_ofEntry entry
    cases verdict : Verdict.ofEntry entry with
    | keep pattern =>
      rw [verdict] at judged
      simp only [List.filterMap_cons, verdict]
      exact .keep judged ih
    | migrate pattern rewritten =>
      rw [verdict] at judged
      simp only [List.filterMap_cons, verdict]
      exact .migrate judged ih
    | drop pattern fault =>
      rw [verdict] at judged
      simp only [List.filterMap_cons, verdict]
      exact .drop judged ih

theorem survivors_eq_map (entries : List Value) : survivors entries =
    (entries.filterMap fun entry => (Verdict.ofEntry entry).survivor?).map Value.string := by
  rw [survivors, List.map_filterMap]

theorem filterMap_entries {α : Type} (lists : Lists) (f : Category → Value → Option α) :
    (lists.entries.filterMap fun (category, entry) => f category entry) =
      (lists.get .allow).filterMap (f .allow) ++ (lists.get .ask).filterMap (f .ask) ++
        (lists.get .deny).filterMap (f .deny) := by
  simp only [Lists.entries, Category.all, List.flatMap_cons, List.flatMap_nil, List.append_nil,
    List.filterMap_append, List.filterMap_map, List.append_assoc]
  rfl

/-- The entries of a well-formed document are well-formed. -/
theorem wellFormed_read {document : Value} (wellFormed : document.WellFormed) {category : Category}
    {entry : Value} (member : entry ∈ Lists.read document category) : entry.WellFormed := by
  unfold Lists.read at member
  cases held : document.get? permissionsKey with
  | none => simp [held] at member
  | some permissions =>
    have permissions' := wellFormed_get? wellFormed held
    cases list : permissions.get? category.key with
    | none => simp [held, list] at member
    | some value =>
      have value' := wellFormed_get? permissions' list
      rw [held, Option.bind_some, list, Option.bind_some] at member
      cases value with
      | array items => exact Value.wellFormed_array.mp value' entry member
      | _ => contradiction

/-- A repair divides each list: valid patterns stay in their order, each deprecated one has its migration
in its place, and all other entries are dropped. The record of the repair holds the migrations and the
removals category by category, and the text of a dropped entry that is no string is read back as it. -/
theorem repair_divides (document : Value) :
    ∃ (kept : Category → List String) (migrated : Category → List Migration)
      (removed : Category → List Removal),
      (∀ category,
        Divides category ((Lists.ofDocument document).get category) (kept category)
          (migrated category) (removed category) ∧
        ((repair document).document.get? permissionsKey).bind (·.get? category.key) =
          some (.array ((kept category).map .string)) ∧
        (kept category).length + (removed category).length =
          ((Lists.ofDocument document).get category).length) ∧
      (repair document).migrated = migrated .allow ++ migrated .ask ++ migrated .deny ∧
      (repair document).removed = removed .allow ++ removed .ask ++ removed .deny ∧
      (document.WellFormed → ∀ category, ∀ entry ∈ (Lists.ofDocument document).get category,
        Settings.parseDocument entry.compact = .ok entry) := by
  have divides := fun category =>
    divides_verdicts category ((Lists.ofDocument document).get category)
  refine ⟨_, _, _, fun category => ⟨divides category, ?_, (divides category).length⟩, ?_, ?_, ?_⟩
  · rw [← survivors_eq_map]
    show ((repairedDocument document).get? permissionsKey).bind _ = _
    rw [get?_repairedDocument, Option.bind_some]
    exact get?_repairedPermissions _ _ category
  · exact filterMap_entries _ fun category entry => (Verdict.ofEntry entry).migration? category
  · exact filterMap_entries _ fun category entry => (Verdict.ofEntry entry).removal? category
  · intro wellFormed category entry member
    rw [get_ofDocument] at member
    rw [Settings.parseDocument, parse_compact (wellFormed_read wellFormed member)]
    rfl

end PermissionRules.Rules
