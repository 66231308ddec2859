import PermissionRules.Proofs.Rules.Partition

/-! Documents category by category. What is found in a category, what a repair records for it and the list
that it leaves there come from the list of this category alone, and the findings of a whole document are those
of its categories in their order. So the rest of a document has no influence on them. -/
namespace PermissionRules.Rules
open Document

/-! ### What verdicts tell -/

section
variable {α : Type} {read : Category → Verdict → Option α} {tag : α → Category}

/-- What is told by the verdicts on all entries. -/
def Lists.told (lists : Lists) (read : Category → Verdict → Option α) : List α :=
  lists.entries.filterMap fun (category, entry) => read category (Verdict.ofEntry entry)

/-- What a verdict tells names the category of the entry. -/
def Tagged (read : Category → Verdict → Option α) (tag : α → Category) : Prop :=
  ∀ category verdict item, read category verdict = some item → tag item = category

theorem filter_told (tagged : Tagged read tag) (category other : Category) (entries : List Value) :
    (entries.filterMap fun entry => read other (Verdict.ofEntry entry)).filter (tag · = category) =
      if other = category then entries.filterMap fun entry => read other (Verdict.ofEntry entry)
      else [] := by
  split
  case isTrue same =>
    refine List.filter_eq_self.mpr fun item member => ?_
    obtain ⟨entry, _, found⟩ := List.mem_filterMap.mp member
    exact decide_eq_true ((tagged _ _ _ found).trans same)
  case isFalse different =>
    refine List.filter_eq_nil_iff.mpr fun item member => ?_
    obtain ⟨entry, _, found⟩ := List.mem_filterMap.mp member
    rw [tagged _ _ _ found, decide_eq_true_eq]
    exact different

namespace Lists

theorem told_filter (tagged : Tagged read tag) (lists : Lists) (category : Category) :
    (lists.told read).filter (tag · = category) =
      (lists.get category).filterMap fun entry => read category (Verdict.ofEntry entry) := by
  rw [told, filterMap_entries lists fun category entry => read category (Verdict.ofEntry entry),
    List.filter_append, List.filter_append]
  simp only [filter_told tagged]
  cases category with
  | allow | ask | deny => simp

theorem told_eq_flatMap (tagged : Tagged read tag) (lists : Lists) :
    lists.told read =
      Category.all.flatMap fun category => (lists.told read).filter (tag · = category) := by
  simp only [told_filter tagged]
  rw [told, filterMap_entries lists fun category entry => read category (Verdict.ofEntry entry)]
  simp [Category.all]

/-- The categories, which come in a fixed order, can be told apart. -/
theorem told_congr (tagged : Tagged read tag) {one other : Lists}
    (each : ∀ category,
      (one.told read).filter (tag · = category) = (other.told read).filter (tag · = category)) :
    one.told read = other.told read := by
  calc one.told read
    _ = Category.all.flatMap fun category => (one.told read).filter (tag · = category) :=
      told_eq_flatMap tagged one
    _ = Category.all.flatMap fun category => (other.told read).filter (tag · = category) :=
      List.flatMap_congr fun category _ => each category
    _ = other.told read := (told_eq_flatMap tagged other).symm

end Lists
end

theorem tagged_issue? : Tagged Verdict.issue? (·.category) := by
  intro category verdict issue found
  cases verdict with
  | keep => contradiction
  | migrate | drop =>
    obtain rfl := Option.some.inj found
    rfl

theorem tagged_migration? : Tagged Verdict.migration? (·.category) := by
  intro category verdict migration found
  cases verdict with
  | migrate =>
    obtain rfl := Option.some.inj found
    rfl
  | keep | drop => contradiction

theorem tagged_removal? : Tagged Verdict.removal? (·.category) := by
  intro category verdict removal found
  cases verdict with
  | drop =>
    obtain rfl := Option.some.inj found
    rfl
  | keep | migrate => contradiction

theorem issues_eq_told (document : Value) :
    issues document = (Lists.ofDocument document).told Verdict.issue? := by
  simp only [issues, issue?_eq_verdict]
  rfl

theorem migrated_eq_told (document : Value) :
    (repair document).migrated = (Lists.ofDocument document).told Verdict.migration? :=
  rfl

theorem removed_eq_told (document : Value) :
    (repair document).removed = (Lists.ofDocument document).told Verdict.removal? :=
  rfl

/-! ### Two documents -/

/-- The list of a category in the repaired document. -/
def repairedList? (document : Value) (category : Category) : Option Value :=
  ((repair document).document.get? permissionsKey).bind (·.get? category.key)

theorem repairedList?_eq (document : Value) (category : Category) : repairedList? document category =
    some (.array (survivors ((Lists.ofDocument document).get category))) := by
  show ((repairedDocument document).get? permissionsKey).bind _ = _
  rw [get?_repairedDocument, Option.bind_some]
  exact get?_repairedPermissions _ _ category

/-- All that is found in a category, and all that a repair does in it, is the same for two documents. -/
structure AlikeIn (category : Category) (one other : Value) : Prop where
  issues : (issues one).filter (·.category = category) =
    (issues other).filter (·.category = category)
  migrated : (repair one).migrated.filter (·.category = category) =
    (repair other).migrated.filter (·.category = category)
  removed : (repair one).removed.filter (·.category = category) =
    (repair other).removed.filter (·.category = category)
  repaired : ∃ entries, repairedList? one category = some (.array entries) ∧
    repairedList? other category = some (.array entries)

variable {category : Category} {one other : Value}

theorem alikeIn_of_list
    (same : (Lists.ofDocument one).get category = (Lists.ofDocument other).get category) :
    AlikeIn category one other where
  issues := by
    rw [issues_eq_told, issues_eq_told, Lists.told_filter tagged_issue?,
      Lists.told_filter tagged_issue?, same]
  migrated := by
    rw [migrated_eq_told, migrated_eq_told, Lists.told_filter tagged_migration?,
      Lists.told_filter tagged_migration?, same]
  removed := by
    rw [removed_eq_told, removed_eq_told, Lists.told_filter tagged_removal?,
      Lists.told_filter tagged_removal?, same]
  repaired := ⟨_, repairedList?_eq one category, by rw [repairedList?_eq, same]⟩

theorem issues_of_alikeIn (alike : ∀ category, AlikeIn category one other) : issues one = issues other := by
  rw [issues_eq_told, issues_eq_told]
  refine Lists.told_congr tagged_issue? fun category => ?_
  rw [← issues_eq_told, ← issues_eq_told]
  exact (alike category).issues

theorem migrated_of_alikeIn (alike : ∀ category, AlikeIn category one other) :
    (repair one).migrated = (repair other).migrated :=
  Lists.told_congr tagged_migration? fun category => (alike category).migrated

theorem removed_of_alikeIn (alike : ∀ category, AlikeIn category one other) :
    (repair one).removed = (repair other).removed :=
  Lists.told_congr tagged_removal? fun category => (alike category).removed

/-- Two documents of whatever shape with the same rule lists have the same issues, and a repair does the
same to their lists. With one list the same, this holds in its category, whatever the other lists are. -/
theorem findings_of_lists (one other : Value) :
    (Lists.ofDocument one = Lists.ofDocument other →
      issues one = issues other ∧ (repair one).migrated = (repair other).migrated ∧
      (repair one).removed = (repair other).removed ∧
      ∀ category, ∃ entries, repairedList? one category = some (.array entries) ∧
        repairedList? other category = some (.array entries)) ∧
    ∀ category, (Lists.ofDocument one).get category = (Lists.ofDocument other).get category →
      AlikeIn category one other := by
  refine ⟨fun same => ?_, fun category same => alikeIn_of_list same⟩
  have alike : ∀ category, AlikeIn category one other :=
    fun category => alikeIn_of_list (congrArg (Lists.get · category) same)
  exact ⟨issues_of_alikeIn alike, migrated_of_alikeIn alike, removed_of_alikeIn alike,
    fun category => (alike category).repaired⟩

/-- A deprecated pattern and a number. -/
def denials : Value :=
  .array [.string "Bash(ls:*)", .integer 1]

def denialsAlone : Value :=
  .object [("permissions", .object [("deny", denials)])]

/-- The same lists in another document: a list that is no array reads as empty. -/
def denialsAmongMembers : Value :=
  .object [("theme", .null),
    ("permissions", .object [("mode", .bool true), ("deny", denials), ("allow", .null)])]

def denialsBesideBlank : Value :=
  .object [("permissions", .object [("deny", denials), ("allow", .array [.string ""])])]

theorem findings_of_lists_denials :
    Lists.ofDocument denialsAlone = Lists.ofDocument denialsAmongMembers ∧
    issues denialsAlone = issues denialsAmongMembers ∧
    (Lists.ofDocument denialsAlone).get .deny = (Lists.ofDocument denialsBesideBlank).get .deny ∧
    AlikeIn .deny denialsAlone denialsBesideBlank ∧
    issues denialsAlone ≠ issues denialsBesideBlank := by
  have same : Lists.ofDocument denialsAlone = Lists.ofDocument denialsAmongMembers := rfl
  have found := ((findings_of_lists _ _).1 same).1
  have list : (Lists.ofDocument denialsAlone).get .deny =
      (Lists.ofDocument denialsBesideBlank).get .deny := rfl
  exact ⟨same, found, list, (findings_of_lists _ _).2 .deny list, by decide⟩

end PermissionRules.Rules
