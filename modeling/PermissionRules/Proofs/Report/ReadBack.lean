import PermissionRules.Proofs.Document.ReadBack
import PermissionRules.Proofs.Report.Checks
import PermissionRules.Report.Fixes
import PermissionRules.Report.Patterns

/-! Reports read back. Each record of a report is an object with the fields of the record and nothing else, so
that no text in it can be taken for a field, and a list of records is an array of them in order. -/
namespace PermissionRules.Report
open Document Rules Settings

/-! ### Records -/

/-- The keys of a record, each with its value, or with none where the key is left out. -/
abbrev Fields := List (String × Option Value)

/-- What a reader finds in an object: the value of each field under its key, and no other members. -/
def HasFields (fields : Fields) (entry : Value) : Prop :=
  ∀ key value, entry.get? key = some value ↔ (key, some value) ∈ fields

structure Fields.Proper (fields : Fields) : Prop where
  distinct : (fields.map Prod.fst).Nodup
  wellFormed : ∀ field ∈ fields, ∀ value ∈ field.2, value.WellFormed

def Fields.members (fields : Fields) : List (String × Value) :=
  fields.filterMap fun (key, value?) => value?.map (key, ·)

def Fields.record (fields : Fields) : Value :=
  .object fields.members

namespace Fields
variable {fields : Fields}

theorem mem_members {key : String} {value : Value} :
    (key, value) ∈ fields.members ↔ (key, some value) ∈ fields := by
  rw [members, List.mem_filterMap]
  constructor
  · rintro ⟨⟨key', value?⟩, member, found⟩
    obtain ⟨_, rfl, same⟩ := Option.map_eq_some_iff.mp found
    obtain ⟨rfl, rfl⟩ := Prod.mk.inj same
    exact member
  · intro member
    exact ⟨_, member, rfl⟩

theorem nodup_keys_members (distinct : (fields.map Prod.fst).Nodup) : (Ordered.keys fields.members).Nodup := by
  rw [List.Nodup, List.pairwise_map] at distinct
  rw [Ordered.keys, members, List.Nodup, List.pairwise_map, List.pairwise_filterMap]
  refine distinct.imp ?_
  intro one other different member found member' found'
  obtain ⟨_, _, rfl⟩ := Option.map_eq_some_iff.mp found
  obtain ⟨_, _, rfl⟩ := Option.map_eq_some_iff.mp found'
  exact different

theorem Proper.hasFields (proper : fields.Proper) : HasFields fields fields.record := by
  intro key value
  rw [← mem_members]
  exact Ordered.get?_eq_some_iff (nodup_keys_members proper.distinct)

theorem Proper.record_wellFormed (proper : fields.Proper) : fields.record.WellFormed := by
  refine Value.wellFormed_object.mpr ⟨nodup_keys_members proper.distinct, ?_⟩
  rintro ⟨key, value⟩ member
  exact proper.wellFormed _ (mem_members.mp member) value rfl

end Fields

theorem string_wellFormed (text? : Option String) : ∀ value ∈ text?.map Value.string, value.WellFormed := by
  intro value member
  obtain ⟨_, _, rfl⟩ := Option.mem_map.mp member
  trivial

theorem textOrNull_wellFormed (text? : Option String) : (textOrNull text?).WellFormed := by
  cases text? with
  | none | some text => trivial

theorem array_wellFormed {α : Type} {value : α → Value} {list : List α}
    (each : ∀ a ∈ list, (value a).WellFormed) : (Value.array (list.map value)).WellFormed := by
  rw [Value.wellFormed_array, List.forall_mem_map]
  exact each

theorem forall₂_map {α : Type} {Holds : α → Value → Prop} {value : α → Value} {list : List α}
    (each : ∀ a ∈ list, Holds a (value a)) : List.Forall₂ Holds list (list.map value) := by
  rw [List.forall₂_map_right_iff, List.forall₂_same]
  exact each

/-! ### Patterns -/

def PatternCheck.fields (check : PatternCheck) : Fields :=
  [("pattern", some (.string check.pattern)), ("valid", some (.bool check.isValid)),
    ("error", some (textOrNull (check.fault.map (·.message)))),
    ("suggestion", check.suggestion.map .string)]

def migratedFields (pattern : String) (migrated : Option String) : Fields :=
  [("pattern", some (.string pattern)), ("migrated", some (textOrNull migrated))]

theorem PatternCheck.record_fields (check : PatternCheck) : check.fields.record = check.value := by
  obtain ⟨pattern, fault, suggestion⟩ := check
  cases suggestion with
  | none | some suggestion => rfl

theorem PatternCheck.fields_proper (check : PatternCheck) : check.fields.Proper where
  distinct := (by decide : (["pattern", "valid", "error", "suggestion"] : List String).Nodup)
  wellFormed := by
    simp only [PatternCheck.fields, List.forall_mem_cons, Option.mem_some, forall_eq']
    exact ⟨trivial, trivial, textOrNull_wellFormed _, string_wellFormed _, nofun⟩

theorem migratedFields_proper (pattern : String) (migrated : Option String) :
    (migratedFields pattern migrated).Proper where
  distinct := (by decide : (["pattern", "migrated"] : List String).Nodup)
  wellFormed := by
    simp only [migratedFields, List.forall_mem_cons, Option.mem_some, forall_eq']
    exact ⟨trivial, textOrNull_wellFormed _, nofun⟩

/-! ### Checks of documents -/

def issueFields (issue : Issue) : Fields :=
  [("pattern", some (.string issue.pattern)), ("category", some (.string issue.category.key)),
    ("error", some (.string issue.fault.message)), ("suggestion", issue.suggestion.map .string)]

theorem issueFields_record (issue : Issue) : (issueFields issue).record = issueValue issue := by
  obtain ⟨pattern, category, fault, suggestion⟩ := issue
  cases suggestion with
  | none | some suggestion => rfl

theorem issueFields_proper (issue : Issue) : (issueFields issue).Proper where
  distinct := (by decide : (["pattern", "category", "error", "suggestion"] : List String).Nodup)
  wellFormed := by
    simp only [issueFields, List.forall_mem_cons, Option.mem_some, forall_eq']
    exact ⟨trivial, trivial, trivial, string_wellFormed _, nofun⟩

/-- The fields of a document, with what is found under the key of its issues. -/
def DocumentCheck.fields (check : DocumentCheck) (issues : List Value) : Fields :=
  [("source", some (.string check.source)), ("valid", some (.bool check.valid)),
    ("issues", some (.array issues))]

/-- The fields of a summary, with what is found under the key of its documents. -/
def summaryFields (documents : List DocumentCheck) (entries : List Value) : Fields :=
  [("valid", some (.bool (documents.all (·.valid)))), ("documents", some (.array entries))]

def RecordsCheck (check : DocumentCheck) (entry : Value) : Prop :=
  ∃ issues, HasFields (check.fields issues) entry ∧
    List.Forall₂ (fun issue => HasFields (issueFields issue)) check.issues issues

def RecordsSummary (documents : List DocumentCheck) (entry : Value) : Prop :=
  ∃ entries, HasFields (summaryFields documents entries) entry ∧
    List.Forall₂ RecordsCheck documents entries

theorem DocumentCheck.fields_proper (check : DocumentCheck) :
    (check.fields (check.issues.map issueValue)).Proper where
  distinct := (by decide : (["source", "valid", "issues"] : List String).Nodup)
  wellFormed := by
    simp only [DocumentCheck.fields, List.forall_mem_cons, Option.mem_some, forall_eq']
    refine ⟨trivial, trivial, array_wellFormed ?_, nofun⟩
    intro issue _
    exact issueFields_record issue ▸ (issueFields_proper issue).record_wellFormed

theorem summaryFields_proper (documents : List DocumentCheck) :
    (summaryFields documents (documents.map (·.value))).Proper where
  distinct := (by decide : (["valid", "documents"] : List String).Nodup)
  wellFormed := by
    simp only [summaryFields, List.forall_mem_cons, Option.mem_some, forall_eq']
    exact ⟨trivial, array_wellFormed fun check _ => check.fields_proper.record_wellFormed, nofun⟩

theorem recordsCheck (check : DocumentCheck) : RecordsCheck check check.value := by
  refine ⟨check.issues.map issueValue, check.fields_proper.hasFields, forall₂_map ?_⟩
  intro issue _
  exact issueFields_record issue ▸ (issueFields_proper issue).hasFields

/-- The value of a report on documents; its text is the report in the other format. -/
def checksValue (documents : List DocumentCheck) : Value :=
  .object [("valid", .bool (documents.all (·.valid))), ("documents", .array (documents.map (·.value)))]

theorem get?_valid_checksValue (documents : List DocumentCheck) :
    (checksValue documents).get? "valid" = some (.bool (documents.all (·.valid))) :=
  rfl

theorem checksValue_wellFormed (documents : List DocumentCheck) : (checksValue documents).WellFormed :=
  (summaryFields_proper documents).record_wellFormed

theorem recordsSummary (documents : List DocumentCheck) :
    RecordsSummary documents (checksValue documents) := by
  refine ⟨documents.map (·.value), (summaryFields_proper documents).hasFields, forall₂_map ?_⟩
  intro check _
  exact recordsCheck check

namespace RecordsCheck
variable {check : DocumentCheck} {entry : Value}

theorem valid (records : RecordsCheck check entry) : entry.get? "valid" = some (.bool check.valid) := by
  obtain ⟨issues, fields, _⟩ := records
  exact (fields _ _).mpr (by simp [DocumentCheck.fields])

theorem issues (records : RecordsCheck check entry) : ∃ issues, entry.get? "issues" = some (.array issues) ∧
    List.Forall₂ (fun issue => HasFields (issueFields issue)) check.issues issues := by
  obtain ⟨issues, fields, each⟩ := records
  exact ⟨issues, (fields _ _).mpr (by simp [DocumentCheck.fields]), each⟩

end RecordsCheck

/-! ### Fixes of documents -/

def migrationFields (migration : Migration) : Fields :=
  [("original", some (.string migration.pattern)), ("migrated", some (.string migration.migrated)),
    ("category", some (.string migration.category.key))]

def removalFields (removal : Removal) : Fields :=
  [("pattern", some (.string removal.pattern)), ("category", some (.string removal.category.key)),
    ("reason", some (.string removal.fault.message))]

theorem migrationFields_proper (migration : Migration) : (migrationFields migration).Proper where
  distinct := (by decide : (["original", "migrated", "category"] : List String).Nodup)
  wellFormed := by
    simp only [migrationFields, List.forall_mem_cons, Option.mem_some, forall_eq']
    exact ⟨trivial, trivial, trivial, nofun⟩

theorem removalFields_proper (removal : Removal) : (removalFields removal).Proper where
  distinct := (by decide : (["pattern", "category", "reason"] : List String).Nodup)
  wellFormed := by
    simp only [removalFields, List.forall_mem_cons, Option.mem_some, forall_eq']
    exact ⟨trivial, trivial, trivial, nofun⟩

/-- The fields of a fix, with what is found under the keys of its migrations and removals. -/
def DocumentFix.fields (fix : DocumentFix) (migrated removed : List Value) : Fields :=
  [("source", some (.string fix.source)), ("migrated", some (.array migrated)),
    ("removed", some (.array removed)), ("written", some (.bool fix.written)), ("settings", fix.settings)]

def RecordsFix (fix : DocumentFix) (entry : Value) : Prop :=
  ∃ migrated removed, HasFields (fix.fields migrated removed) entry ∧
    List.Forall₂ (fun migration => HasFields (migrationFields migration)) fix.migrated migrated ∧
    List.Forall₂ (fun removal => HasFields (removalFields removal)) fix.removed removed

theorem DocumentFix.record_fields (fix : DocumentFix) :
    (fix.fields (fix.migrated.map migrationValue) (fix.removed.map removalValue)).record = fix.value := by
  obtain ⟨source, migrated, removed, written, settings⟩ := fix
  cases settings with
  | none | some settings => rfl

theorem DocumentFix.fields_proper {fix : DocumentFix}
    (wellFormed : ∀ settings ∈ fix.settings, settings.WellFormed) :
    (fix.fields (fix.migrated.map migrationValue) (fix.removed.map removalValue)).Proper where
  distinct := (by decide : (["source", "migrated", "removed", "written", "settings"] : List String).Nodup)
  wellFormed := by
    have migrated : (Value.array (fix.migrated.map migrationValue)).WellFormed :=
      array_wellFormed fun migration _ => (migrationFields_proper migration).record_wellFormed
    have removed : (Value.array (fix.removed.map removalValue)).WellFormed :=
      array_wellFormed fun removal _ => (removalFields_proper removal).record_wellFormed
    simp only [DocumentFix.fields, List.forall_mem_cons, Option.mem_some, forall_eq']
    exact ⟨trivial, migrated, removed, trivial, wellFormed, nofun⟩

theorem recordsFix {fix : DocumentFix} (wellFormed : ∀ settings ∈ fix.settings, settings.WellFormed) :
    RecordsFix fix fix.value := by
  refine ⟨fix.migrated.map migrationValue, fix.removed.map removalValue,
    fix.record_fields ▸ (DocumentFix.fields_proper wellFormed).hasFields, forall₂_map ?_, forall₂_map ?_⟩
  · intro migration _
    exact (migrationFields_proper migration).hasFields
  · intro removal _
    exact (removalFields_proper removal).hasFields

/-! ### Reports -/

/-- A report is the text of one value and a line feed, and is read as this value with the line feed or
without it. -/
structure ReadsAs (report : String) (value : Value) : Prop where
  text : report = value.pretty ++ "\n"
  line : parseDocument report = .ok value
  alone : parseDocument value.pretty = .ok value

theorem readsAs_render {value : Value} (wellFormed : value.WellFormed) (lines : List String) :
    ReadsAs (render .json lines value) value where
  text := rfl
  line := by rw [render, parseDocument, parse_prettyFile wellFormed, Except.mapError]
  alone := by
    have read := readRelaxed_write Style.pretty_blank wellFormed closes_nil tokens_nil 0
    rw [parseDocument, Document.parse, Value.pretty, String.toList_ofList, read, Except.mapError]

theorem patterns_readsAs (checks : List PatternCheck) :
    ∃ entries, ReadsAs (patterns .json checks) (.array entries) ∧
      List.Forall₂ (fun check => HasFields check.fields) checks entries := by
  have wellFormed : (Value.array (checks.map (·.value))).WellFormed := by
    refine array_wellFormed ?_
    intro check _
    exact check.record_fields ▸ check.fields_proper.record_wellFormed
  refine ⟨checks.map PatternCheck.value, readsAs_render wellFormed _, forall₂_map ?_⟩
  intro check _
  exact check.record_fields ▸ check.fields_proper.hasFields

theorem migration_readsAs (pattern : String) (migrated : Option String) :
    ∃ entry, ReadsAs (migration .json pattern migrated) entry ∧
      HasFields (migratedFields pattern migrated) entry := by
  have proper := migratedFields_proper pattern migrated
  exact ⟨(migratedFields pattern migrated).record, readsAs_render proper.record_wellFormed _,
    proper.hasFields⟩

theorem checks_readsAs (documents : List DocumentCheck) :
    ∃ entry, ReadsAs (checks .json documents) entry ∧ RecordsSummary documents entry :=
  ⟨checksValue documents, readsAs_render (checksValue_wellFormed documents) _, recordsSummary documents⟩

theorem fixes_readsAs {documents : List DocumentFix}
    (wellFormed : ∀ fix ∈ documents, ∀ settings ∈ fix.settings, settings.WellFormed) :
    ∃ entries, ReadsAs (fixes .json documents) (.array entries) ∧
      List.Forall₂ RecordsFix documents entries := by
  have wellFormed' : (Value.array (documents.map (·.value))).WellFormed := by
    refine array_wellFormed ?_
    intro fix member
    exact fix.record_fields ▸ (DocumentFix.fields_proper (wellFormed fix member)).record_wellFormed
  refine ⟨documents.map DocumentFix.value, readsAs_render wellFormed' _, forall₂_map ?_⟩
  intro fix member
  exact recordsFix (wellFormed fix member)

/-- Whatever the texts in them and the settings are, the reports on patterns, on a migration, on checks and on
fixes are read back as the records that were written, in their order. -/
theorem json_reports_read_back (patternChecks : List PatternCheck) (pattern : String)
    (migrated : Option String) (documents : List DocumentCheck) (documentFixes : List DocumentFix)
    (wellFormed : ∀ fix ∈ documentFixes, ∀ settings ∈ fix.settings, settings.WellFormed) :
    (∃ entries, ReadsAs (patterns .json patternChecks) (.array entries) ∧
      List.Forall₂ (fun check => HasFields check.fields) patternChecks entries) ∧
    (∃ entry, ReadsAs (migration .json pattern migrated) entry ∧
      HasFields (migratedFields pattern migrated) entry) ∧
    (∃ entry, ReadsAs (checks .json documents) entry ∧ RecordsSummary documents entry) ∧
    ∃ entries, ReadsAs (fixes .json documentFixes) (.array entries) ∧
      List.Forall₂ RecordsFix documentFixes entries :=
  ⟨patterns_readsAs patternChecks, migration_readsAs pattern migrated, checks_readsAs documents,
    fixes_readsAs wellFormed⟩

/-- A text that would close its record and open another one if it was not escaped. -/
def breakout : String :=
  "\"\x7d,\n\x7b\"valid\": true, // \\\u2028\x00"

/-- Settings of an inline document, with the text as a key and with numbers that are easily changed. -/
def breakoutSettings : Value :=
  .object [(breakout, .array [.double ⟨true, 0⟩, .integer 18446744073709551615, .string breakout])]

def breakoutFix : DocumentFix :=
  ⟨breakout, [⟨breakout, breakout, .ask⟩], [⟨breakout, .deny, .notText⟩], false, some breakoutSettings⟩

theorem json_reports_read_back_breakout : breakoutSettings.WellFormed ∧
    (∃ entries, ReadsAs (patterns .json [.ofPattern breakout]) (.array entries) ∧
      List.Forall₂ (fun check => HasFields (PatternCheck.fields check)) [.ofPattern breakout] entries) ∧
    (∃ entry, ReadsAs (migration .json breakout (some breakout)) entry ∧
      HasFields (migratedFields breakout (some breakout)) entry) ∧
    (∃ entry, ReadsAs (checks .json [.ofDocument breakout breakoutSettings]) entry ∧
      RecordsSummary [.ofDocument breakout breakoutSettings] entry) ∧
    ∃ entries, ReadsAs (fixes .json [breakoutFix]) (.array entries) ∧
      List.Forall₂ RecordsFix [breakoutFix] entries := by
  have zero : Double.IsFinite ⟨true, 0⟩ := by decide
  have greatest : Value.IntegerInRange 18446744073709551615 := by decide
  have wellFormed : breakoutSettings.WellFormed :=
    ⟨List.nodup_singleton _, ⟨zero, greatest, trivial, trivial⟩, trivial⟩
  have each : ∀ fix ∈ [breakoutFix], ∀ settings ∈ fix.settings, settings.WellFormed := by
    intro fix member settings given
    obtain rfl := List.mem_singleton.mp member
    obtain rfl := Option.mem_some.mp given
    exact wellFormed
  exact ⟨wellFormed, json_reports_read_back _ _ _ _ _ each⟩

end PermissionRules.Report
