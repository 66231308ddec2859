import PermissionRules.Document.Reading
import PermissionRules.Proofs.Document.WrittenTokens
import PermissionRules.Proofs.Ordered
import PermissionRules.Settings.Load

/-! Reading back what was written. The tokens of a value lead from a state where a value is due to one
where this value is complete, for any stack of open containers. -/
namespace PermissionRules.Document

namespace Reading

/-- A value is due, and the end of an array may be due as well. -/
def Awaits (reading : Reading) (stack : List Frame) : Prop :=
  ∀ token, token ≠ .closeBracket → reading.step? token = begin? stack token

theorem awaits_value (stack : List Frame) : Awaits (.awaitValue stack) stack :=
  fun _ _ => rfl

theorem awaits_item (items : List Value) (stack : List Frame) :
    Awaits (.awaitItem items stack) (.array items :: stack) := by
  intro token different
  cases token with
  | closeBracket => contradiction
  | _ => rfl

variable {reading next : Reading} {stack : List Frame} {rest : List Token}

theorem foldlM_step {token : Token} (step : reading.step? token = some next) :
    (token :: rest).foldlM step? reading = rest.foldlM step? next := by
  rw [List.foldlM_cons, step]
  rfl

theorem foldlM_begin (awaits : reading.Awaits stack) (token : Token)
    (different : token ≠ .closeBracket) (begun : begin? stack token = some next) :
    (token :: rest).foldlM step? reading = rest.foldlM step? next :=
  foldlM_step ((awaits token different).trans begun)

end Reading

open Reading

/-- The tokens of a value complete it where a value is due. -/
def Value.ReadBack (value : Value) : Prop :=
  ∀ reading stack rest, Awaits reading stack →
    (value.tokensBefore rest).foldlM step? reading = rest.foldlM step? (.complete value stack)

theorem foldlM_itemTokens {items : List Value} (readBack : ∀ item ∈ items, item.ReadBack)
    (read : List Value) (last : Value) (stack : List Frame) (rest : List Token) :
    (Value.itemTokens items (.closeBracket :: rest)).foldlM step?
        (.complete last (.array read :: stack)) =
      rest.foldlM step? (.complete (.array (read.reverse ++ last :: items)) stack) := by
  induction items generalizing read last with
  | nil =>
    rw [Value.itemTokens, foldlM_step rfl, closeArray, List.reverse_cons]
  | cons item items ih =>
    rw [Value.itemTokens, foldlM_step rfl,
      readBack item List.mem_cons_self _ _ _ (awaits_item (last :: read) stack),
      ih (fun other member => readBack other (List.mem_cons_of_mem _ member)), List.reverse_cons,
      List.append_assoc, List.singleton_append]

theorem foldlM_memberTokens {members : List (String × Value)}
    (readBack : ∀ member ∈ members, member.2.ReadBack) (read : List (String × Value)) (key : String)
    (last : Value) (stack : List Frame) (rest : List Token) :
    (Value.memberTokens members (.closeBrace :: rest)).foldlM step?
        (.complete last (.object read key :: stack)) =
      rest.foldlM step?
        (.complete (.object (Ordered.ofWritten (read.reverse ++ (key, last) :: members))) stack) := by
  induction members generalizing read key last with
  | nil =>
    rw [Value.memberTokens, foldlM_step rfl, closeObject, List.reverse_cons]
  | cons member members ih =>
    obtain ⟨next, value⟩ := member
    have first := readBack (next, value) List.mem_cons_self
    rw [Value.memberTokens, foldlM_step rfl, foldlM_step rfl, foldlM_step rfl,
      first _ _ _ (awaits_value _),
      ih (fun other inside => readBack other (List.mem_cons_of_mem _ inside)), List.reverse_cons,
      List.append_assoc, List.singleton_append]

theorem readBack {value : Value} (wellFormed : value.WellFormed) : value.ReadBack := by
  induction value with
  | null | integer n | double x | string text =>
    intro reading stack rest awaits
    exact foldlM_begin awaits _ nofun rfl
  | bool b =>
    intro reading stack rest awaits
    cases b with
    | true | false => exact foldlM_begin awaits _ nofun rfl
  | array items ih =>
    intro reading stack rest awaits
    have items' := Value.wellFormed_array.mp wellFormed
    cases items with
    | nil => exact (foldlM_begin awaits .openBracket nofun rfl).trans (foldlM_step rfl)
    | cons item items =>
      have readBack : ∀ other ∈ item :: items, other.ReadBack :=
        fun other member => ih other member (items' other member)
      rw [Value.tokensBefore, foldlM_begin awaits .openBracket nofun rfl,
        readBack item List.mem_cons_self _ _ _ (awaits_item [] stack),
        foldlM_itemTokens fun other member => readBack other (List.mem_cons_of_mem _ member)]
      rfl
  | object members ih =>
    intro reading stack rest awaits
    obtain ⟨distinct, members'⟩ := Value.wellFormed_object.mp wellFormed
    cases members with
    | nil => exact (foldlM_begin awaits .openBrace nofun rfl).trans (foldlM_step rfl)
    | cons member members =>
      obtain ⟨key, value⟩ := member
      have readBack : ∀ member ∈ (key, value) :: members, member.2.ReadBack :=
        fun other inside => ih other inside (members' other inside)
      have first := readBack (key, value) List.mem_cons_self
      rw [Value.tokensBefore, foldlM_begin awaits .openBrace nofun rfl, foldlM_step rfl, foldlM_step rfl,
        first _ _ _ (awaits_value _),
        foldlM_memberTokens fun other inside => readBack other (List.mem_cons_of_mem _ inside),
        List.reverse_nil, List.nil_append, Ordered.ofWritten_of_nodup distinct]

theorem ofTokens?_tokensBefore {value : Value} (wellFormed : value.WellFormed) :
    ofTokens? (value.tokensBefore []) = some value := by
  rw [ofTokens?, start, readBack wellFormed _ _ _ (awaits_value [])]
  rfl

namespace Value
variable {style : Style}

theorem writeItems_append {items : List Value}
    (appended : ∀ item ∈ items, ∀ depth following after,
      item.write style depth following ++ after = item.write style depth (following ++ after))
    (depth : Nat) (following after : List Char) :
    writeItems style depth items following ++ after =
      writeItems style depth items (following ++ after) := by
  induction items with
  | nil => rfl
  | cons item items ih =>
    rw [writeItems, writeItems, List.append_assoc, appended item List.mem_cons_self,
      ih fun other member => appended other (List.mem_cons_of_mem _ member)]

theorem writeMembers_append {members : List (String × Value)}
    (appended : ∀ member ∈ members, ∀ depth following after,
      member.2.write style depth following ++ after = member.2.write style depth (following ++ after))
    (depth : Nat) (following after : List Char) :
    writeMembers style depth members following ++ after =
      writeMembers style depth members (following ++ after) := by
  induction members with
  | nil => rfl
  | cons member members ih =>
    obtain ⟨key, value⟩ := member
    have first := appended (key, value) List.mem_cons_self
    rw [writeMembers, writeMembers, List.append_assoc, first,
      ih fun other inside => appended other (List.mem_cons_of_mem _ inside)]

theorem write_append (value : Value) (depth : Nat) (following after : List Char) :
    value.write style depth following ++ after = value.write style depth (following ++ after) := by
  induction value generalizing depth following after with
  | null => rfl
  | bool b => cases b <;> rfl
  | integer n | double x | string text => exact List.append_assoc _ _ _
  | array items ih =>
    cases items with
    | nil => rfl
    | cons item items =>
      rw [write, write, List.append_assoc, ih item List.mem_cons_self,
        writeItems_append fun other member => ih other (List.mem_cons_of_mem _ member),
        List.append_assoc]
      rfl
  | object members ih =>
    cases members with
    | nil => rfl
    | cons member members =>
      obtain ⟨key, value⟩ := member
      have first := ih (key, value) List.mem_cons_self
      have others := writeMembers_append fun other inside => ih other (List.mem_cons_of_mem _ inside)
      simp only [write, List.cons_append, List.append_assoc, first, others]

end Value

/-- A written value is read back with nothing or a line feed after it. -/
theorem readRelaxed_write {style : Style} (blank : style.Blank) {value : Value}
    (wellFormed : value.WellFormed) {following : List Char} (closes : Closes following)
    (layout : tokens following = some []) (depth : Nat) :
    readRelaxed (value.write style depth following) = some value := by
  rw [readRelaxed, tokens_write blank wellFormed depth following closes, layout]
  exact ofTokens?_tokensBefore wellFormed

theorem tokens_lineFeed : tokens ['\n'] = some [] := by
  have blank : ∀ c ∈ ['\n'], isLayoutBlank c = true := List.forall_mem_singleton.mpr rfl
  exact (tokens_blank blank []).trans tokens_nil

theorem parse_compact {value : Value} (wellFormed : value.WellFormed) :
    parse value.compact = .ok value := by
  have read := readRelaxed_write Style.compact_blank wellFormed closes_nil tokens_nil 0
  rw [parse, Value.compact, String.toList_ofList, read]

theorem parse_prettyFile {value : Value} (wellFormed : value.WellFormed) :
    parse value.prettyFile = .ok value := by
  have text : value.prettyFile.toList = value.write .pretty 0 ['\n'] := by
    rw [Value.prettyFile, Value.pretty, String.toList_append, String.toList_ofList]
    exact Value.write_append value 0 [] ['\n']
  have lineFeed : Closes ['\n'] := closes_cons (by decide) []
  have read := readRelaxed_write Style.pretty_blank wellFormed lineFeed tokens_lineFeed 0
  rw [parse, text, read]

end PermissionRules.Document

namespace PermissionRules.Settings
open Document

/-- Saving loses nothing: the content of a file and the compact text of a value are both read as the
value itself, with the order of its keys and its integers apart from its doubles. -/
theorem parseDocument_written {value : Value} (wellFormed : value.WellFormed) :
    parseDocument value.prettyFile = .ok value ∧ parseDocument value.compact = .ok value := by
  rw [parseDocument, parseDocument, parse_prettyFile wellFormed, parse_compact wellFormed]
  exact ⟨rfl, rfl⟩

/-- A document with both bounds of the integers, a negative zero, the least double, empty containers
and a key of characters that are escaped or look like line ends. -/
def bounds : Value :=
  .object [("\u2028\"\\\n\x1f", .array [.integer (-9223372036854775808), .integer 18446744073709551615]),
    ("", .array [.double ⟨true, 0⟩, .double ⟨false, 1⟩, .array [], .object []])]

theorem parseDocument_written_bounds : bounds.WellFormed ∧
    parseDocument bounds.prettyFile = .ok bounds ∧ parseDocument bounds.compact = .ok bounds := by
  have least : Value.IntegerInRange (-9223372036854775808) := by decide
  have greatest : Value.IntegerInRange 18446744073709551615 := by decide
  have zero : Double.IsFinite ⟨true, 0⟩ := by decide
  have tiny : Double.IsFinite ⟨false, 1⟩ := by decide
  have distinct : (Ordered.keys [("\u2028\"\\\n\x1f", Value.null), ("", Value.null)]).Nodup := by decide
  have wellFormed : bounds.WellFormed :=
    ⟨distinct, ⟨least, greatest, trivial⟩, ⟨zero, tiny, trivial, ⟨List.nodup_nil, trivial⟩, trivial⟩,
      trivial⟩
  exact ⟨wellFormed, parseDocument_written wellFormed⟩

end PermissionRules.Settings
