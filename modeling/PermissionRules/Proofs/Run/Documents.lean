import PermissionRules.Proofs.Document.Denotation
import PermissionRules.Proofs.Document.Pieces
import PermissionRules.Proofs.Run.Fixing
import PermissionRules.Proofs.Run.Loading
import PermissionRules.Proofs.Settings.Trimmed

/-! The documents that runs work on. A text is read as the value that its tokens denote, in the order in which they
stand in it, and as nothing else. Whatever is read is well-formed, and so nothing of a document that was loaded is
lost when it is saved and read back. -/
namespace PermissionRules

namespace Document

/-- A text that is cut into tokens which denote a value. -/
def Means (text : String) (value : Value) : Prop :=
  ∃ spelled, Cut text.toList spelled ∧ Denotes spelled value

theorem parse_eq_ok_iff_means {text : String} {value : Value} : parse text = .ok value ↔ Means text value := by
  simp only [parse_eq_ok_iff, readRelaxed, Option.bind_eq_some_iff, Means, cut_iff, ofTokens?_iff]

end Document

namespace Run
open CommandLine Document Files Settings

variable {store : Store} {one : Loaded}

/-- Nothing of a loaded document is lost: it is well-formed, it is read back from what would be its file and from
its compact text, and once it is saved to the file that it was loaded from it is loaded from there again. -/
structure Lossless (store : Store) (one : Loaded) : Prop where
  wellFormed : one.document.WellFormed
  content : decode one.document.prettyFile.toUTF8 = .ok one.document
  compact : parseDocument one.document.compact = .ok one.document
  saved : ∀ path, one.target.path? = some path → ∃ now,
    saveDocument store path one.document = (.ok (), now) ∧ one.target.load (sightOf now) = .ok one.document

theorem load_wellFormed {look : Path → Sight} {target : Target} {document : Value}
    (loads : target.load look = .ok document) : document.WellFormed := by
  cases target with
  | inline text => exact parseDocument_wellFormed loads
  | file path scope =>
    simp only [Target.load, Sight.document] at loads
    split at loads
    case h_1 => exact decode_wellFormed loads
    case h_2 => contradiction

/-- A well-formed document that is saved over a file is loaded from it. -/
theorem load_of_saved {path : Path} {location : Location} {content : ByteArray}
    (file : InFile store one path location content) (wellFormed : one.document.WellFormed) :
    ∃ now, saveDocument store path one.document = (.ok (), now) ∧
      one.target.load (sightOf now) = .ok one.document := by
  refine ⟨_, Store.save_of_file file.leads file.file _, ?_⟩
  have tree := (Store.SameTree.refl store).put file.file one.document.prettyFile.toUTF8
  have leads := (tree.locate path).trans file.leads
  have held := Store.node?_put_self store (Store.ne_nil_of_file file.file)
    (.file one.document.prettyFile.toUTF8)
  rw [load_of_file file.target leads held]
  exact decode_toUTF8 wellFormed

theorem lossless_of_load (loads : one.target.load (sightOf store) = .ok one.document) : Lossless store one := by
  have wellFormed := load_wellFormed loads
  refine ⟨wellFormed, decode_toUTF8 wellFormed, parseDocument_eq_ok_iff.mpr (parse_compact wellFormed), ?_⟩
  intro path target
  obtain ⟨location, content, file⟩ := inFile_of_path? loads target
  exact load_of_saved file wellFormed

/-- A text is read as a value exactly if its tokens denote the value, which is well-formed then. Hence every
document that is loaded, whatever it is loaded from, is saved without loss. -/
theorem documents_wellFormed (store : Store) (environment : Environment) (selection : Selection) :
    (∀ text value, parseDocument text = .ok value ↔ Means text value) ∧
    (∀ text value, parseDocument text = .ok value → value.WellFormed) ∧
    ∀ loaded, (load (sightOf store) environment selection).result = .ok loaded →
      ∀ one ∈ loaded, Lossless store one := by
  refine ⟨?_, ?_, ?_⟩
  · exact fun text value => parseDocument_eq_ok_iff.trans parse_eq_ok_iff_means
  · exact fun text value => parseDocument_wellFormed
  · exact fun loaded loads one member => lossless_of_load ((mem_load loads).mp member).2

/-- Objects whose keys are each written twice, in quotes of both kinds, as words and with escapes. Among their
numbers are a hexadecimal one, one too great for an integer, one too great for any double, and none. -/
def repeatedKeys : String :=
  "\x7ba:1,'b':0x1F,\"\\u0061\":\x7bx:NaN,\"x\":[1e999,18446744073709551616]\x7d,\\u0062:-0,\x7d//"

/-- What is kept of them. -/
def keptKeys : Value :=
  .object [("a", .object [("x", .array [.null, .double ⟨false, 0x43F0000000000000⟩])]), ("b", .integer 0)]

def repeatedStore : Store :=
  ⟨[], [([['s']], .file repeatedKeys.toUTF8)]⟩

theorem parseDocument_repeatedKeys : parseDocument repeatedKeys = .ok keptKeys :=
  parseDocument_eq_ok_iff.mpr (parse_eq_ok_iff.mpr (by decide +kernel))

theorem load_repeatedStore :
    (load (sightOf repeatedStore) ⟨none, none, "/"⟩ ⟨["s"], [], none, none⟩).result =
      .ok [⟨.file "s" none, keptKeys⟩] := by
  have decoded : decode repeatedKeys.toUTF8 = .ok keptKeys := by
    rw [decode_text, parseDocument_repeatedKeys]
  have plain : (Target.file "s" none).load (sightOf repeatedStore) = .ok keptKeys :=
    (load_of_file rfl (show repeatedStore.locate "s" = .ok [['s']] from rfl) rfl).trans decoded
  have given : ["s"].map Target.ofInput = [.file "s" none] := by decide
  rw [load_given _ _ (List.cons_ne_nil "s" []), given, loadGiven, plain]
  rfl

theorem documents_wellFormed_repeatedKeys : parseDocument repeatedKeys = .ok keptKeys ∧
    Means repeatedKeys keptKeys ∧ keptKeys.WellFormed ∧
    (load (sightOf repeatedStore) ⟨none, none, "/"⟩ ⟨["s"], [], none, none⟩).result =
      .ok [⟨.file "s" none, keptKeys⟩] ∧
    Lossless repeatedStore ⟨.file "s" none, keptKeys⟩ := by
  obtain ⟨reads, wellFormed, lossless⟩ :=
    documents_wellFormed repeatedStore ⟨none, none, "/"⟩ ⟨["s"], [], none, none⟩
  have parsed := parseDocument_repeatedKeys
  have loads := load_repeatedStore
  exact ⟨parsed, (reads _ _).mp parsed, wellFormed _ _ parsed, loads, lossless _ loads _ List.mem_cons_self⟩

end Run
end PermissionRules
