import PermissionRules.Proofs.Document.Parsed
import PermissionRules.Proofs.Document.ReadBack
import PermissionRules.Proofs.Files.Overwriting
import PermissionRules.Proofs.Rules.Repaired
import PermissionRules.Run.Outcome

/-! What a run of fixes does to the files. Each file holds what it held before or the repaired text of
that; several targets may lead to one file, and all of them have loaded the same document. A target
that is fixed loads its repaired document. -/
namespace PermissionRules.Run
open CommandLine Document Files Rules Settings

/-- The document that a fix leaves in a file. -/
def fixed (document : Value) : Value :=
  if (repair document).hasChanges then repairedDocument document else document

/-- What a fix writes into a file. -/
def fixedContent (document : Value) : ByteArray :=
  (repairedDocument document).prettyFile.toUTF8

theorem hasChanges_fixed (document : Value) : (repair (fixed document)).hasChanges = false := by
  unfold fixed
  split
  case isTrue => exact hasChanges_repairedDocument document
  case isFalse unchanged => exact Bool.not_eq_true _ ▸ unchanged

theorem isClean_fixed (document : Value) : isClean (fixed document) = true := by
  have unchanged := hasChanges_fixed document
  rw [← Bool.not_eq_true, hasChanges_iff, Bool.not_eq_false] at unchanged
  exact unchanged

theorem parseDocument_wellFormed {text : String} {document : Value}
    (parsed : parseDocument text = .ok document) : document.WellFormed := by
  cases read : Document.parse text with
  | error error =>
    rw [parseDocument, read] at parsed
    contradiction
  | ok value =>
    rw [parseDocument, read] at parsed
    exact Except.ok.inj parsed ▸ parse_wellFormed read

theorem decode_wellFormed {content : ByteArray} {document : Value}
    (decoded : decode content = .ok document) : document.WellFormed := by
  unfold decode at decoded
  split at decoded
  case h_1 => exact parseDocument_wellFormed decoded
  case h_2 => contradiction

theorem decode_text (text : String) : decode text.toUTF8 = parseDocument text := by
  have read : String.fromUTF8? text.toUTF8 = some text := dif_pos text.isValidUTF8
  simp only [decode, read]

/-- The content of a file is read back as the document that was saved. -/
theorem decode_toUTF8 {document : Value} (wellFormed : document.WellFormed) :
    decode document.prettyFile.toUTF8 = .ok document := by
  rw [decode_text, parseDocument, parse_prettyFile wellFormed]
  rfl

theorem decode_fixedContent {content : ByteArray} {document : Value}
    (decoded : decode content = .ok document) :
    decode (fixedContent document) = .ok (repairedDocument document) :=
  decode_toUTF8 (repairedDocument_wellFormed (decode_wellFormed decoded))

/-- A loaded document is that of a file, to which its target leads. -/
structure InFile (store : Store) (loaded : Loaded) (path : Path) (location : Location)
    (content : ByteArray) : Prop where
  target : loaded.target.path? = some path
  leads : store.locate path = .ok location
  file : store.node? location = some (.file content)
  decoded : decode content = .ok loaded.document

/-- The documents of `done` were fixed in a store, and nothing else was done. -/
structure Fixing (store : Store) (done : List Loaded) (now : Store) : Prop where
  workingDirectory : now.workingDirectory = store.workingDirectory
  nodes : ∀ location, now.node? location = store.node? location ∨
    ∃ content document, store.node? location = some (.file content) ∧
      decode content = .ok document ∧ (repair document).hasChanges = true ∧
      now.node? location = some (.file (fixedContent document))
  saved : ∀ loaded ∈ done, ∀ path location content, InFile store loaded path location content →
    (repair loaded.document).hasChanges = true →
      now.node? location = some (.file (fixedContent loaded.document))

variable {store now : Store} {loaded : Loaded} {done : List Loaded} {path : Path}
variable {location : Location} {content : ByteArray}

/-- Targets that lead to one file have loaded the same document. -/
theorem InFile.document_eq {one : Loaded} {path' : Path} {content' : ByteArray}
    (file : InFile store loaded path location content)
    (file' : InFile store one path' location content') : loaded.document = one.document := by
  have sameContent : content = content' :=
    Node.file.inj (Option.some.inj (file.file.symm.trans file'.file))
  subst content'
  exact Except.ok.inj (file.decoded.symm.trans file'.decoded)

theorem InFile.read (file : InFile store loaded path location content) :
    store.read path = .ok content :=
  Store.read_eq_ok.mpr ⟨location, file.leads, file.file⟩

theorem Loaded.savedTo?_eq_some {write : Bool} : loaded.savedTo? write = some path ↔
    write = true ∧ (repair loaded.document).hasChanges = true ∧ loaded.target.path? = some path := by
  simp only [savedTo?, Bool.and_eq_true]
  constructor
  · intro saved
    split at saved
    case isTrue changes => exact ⟨changes.1, changes.2, saved⟩
    case isFalse => contradiction
  · rintro ⟨writes, changes, file⟩
    rw [if_pos ⟨writes, changes⟩, file]

theorem Fixing.sameTree (fixing : Fixing store done now) : store.SameTree now := by
  refine ⟨fixing.workingDirectory, fun location => (fixing.nodes location).imp_right ?_⟩
  rintro ⟨content, document, file, _, _, file'⟩
  exact ⟨content, _, file, file'⟩

theorem inFile_of_load {target : Target} {document : Value} (isFile : target.path?.isSome = true)
    (loads : target.load (sightOf store) = .ok document) :
    ∃ path location content, InFile store ⟨target, document⟩ path location content := by
  cases target with
  | inline text => contradiction
  | file path scope =>
    simp only [Target.load, Sight.document, sightOf] at loads
    cases read : store.read path with
    | error fault =>
      rw [read] at loads
      contradiction
    | ok content =>
      rw [read] at loads
      obtain ⟨location, leads, file⟩ := Store.read_eq_ok.mp read
      exact ⟨path, location, content, rfl, leads, file, loads⟩

/-- A document that was loaded from a path is in the file to which the path leads. -/
theorem inFile_of_path? {path : Path} (loads : loaded.target.load (sightOf store) = .ok loaded.document)
    (target : loaded.target.path? = some path) :
    ∃ location content, InFile store loaded path location content := by
  have isFile : loaded.target.path?.isSome = true := by rw [target, Option.isSome_some]
  obtain ⟨path', location, content, file⟩ := inFile_of_load isFile loads
  obtain rfl := Option.some.inj (target.symm.trans file.target)
  exact ⟨location, content, file⟩

theorem load_of_file {target : Target} (path? : target.path? = some path)
    (leads : store.locate path = .ok location)
    (file : store.node? location = some (.file content)) :
    target.load (sightOf store) = decode content := by
  cases target with
  | inline text => contradiction
  | file path' scope =>
    cases path?
    have read := Store.read_eq_ok.mpr ⟨location, leads, file⟩
    simp only [Target.load, Sight.document, sightOf, read]

theorem load_of_read {target : Target} (isFile : target.path?.isSome = true)
    (same : ∀ path, target.path? = some path → now.read path = store.read path) :
    target.load (sightOf now) = target.load (sightOf store) := by
  cases target with
  | inline text => contradiction
  | file path scope => simp only [Target.load, Sight.document, sightOf, same path rfl]

/-- A target that was fixed loads with its fixed document, and one that did not load before does not
load now. -/
theorem Fixing.load {target : Target} (fixing : Fixing store done now)
    (isFile : target.path?.isSome = true)
    (held : ∀ document, target.load (sightOf store) = .ok document → ⟨target, document⟩ ∈ done) :
    target.load (sightOf now) = (target.load (sightOf store)).map fixed := by
  cases loads : target.load (sightOf store) with
  | error fault =>
    have unread := @load_of_read store now target isFile fun path path? => by
      refine fixing.sameTree.read fun location leads => ?_
      refine (fixing.nodes location).resolve_right ?_
      rintro ⟨content, document, file, decoded, _⟩
      rw [load_of_file path? leads file, decoded] at loads
      contradiction
    rw [unread, loads]
    rfl
  | ok document =>
    obtain ⟨path, location, content, file⟩ := inFile_of_load isFile loads
    have leads := (fixing.sameTree.locate path).trans file.leads
    cases changes : (repair document).hasChanges with
    | true =>
      have saved := fixing.saved _ (held document loads) path location content file changes
      rw [load_of_file file.target leads saved, decode_fixedContent file.decoded]
      simp only [Except.map, fixed, changes, if_true]
    | false =>
      have kept : now.node? location = some (.file content) := by
        rcases fixing.nodes location with same | ⟨content', document', file', decoded', changes', _⟩
        · exact same.trans file.file
        · have sameContent := Node.file.inj (Option.some.inj (file.file.symm.trans file'))
          subst content'
          have sameDocument := Except.ok.inj (file.decoded.symm.trans decoded')
          rw [← sameDocument, changes] at changes'
          contradiction
      rw [load_of_file file.target leads kept, file.decoded]
      simp only [Except.map, fixed, changes, Bool.false_eq_true, if_false]

end PermissionRules.Run
