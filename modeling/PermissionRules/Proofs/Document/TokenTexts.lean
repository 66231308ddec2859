import PermissionRules.Proofs.Document.ReadBack

/-! The texts of tokens. The compact text of a value is that of its tokens, one behind the other, and each of
them is read back where what follows does not continue it. -/
namespace PermissionRules.Document

/-- The text of a token as it is written. -/
def Token.write : Token → List Char
  | openBrace => ['{']
  | closeBrace => ['}']
  | openBracket => ['[']
  | closeBracket => [']']
  | colon => [':']
  | comma => [',']
  | word name _ => name.toList
  | text content => quoted content
  | number value => value.write .compact 0 []

/-- The tokens of a value. -/
def Value.tokens (value : Value) : List Token :=
  value.tokensBefore []

namespace Value

theorem flatMap_itemTokens {items : List Value}
    (written : ∀ item ∈ items, ∀ depth rest, (item.tokensBefore rest).flatMap Token.write =
      item.write .compact depth (rest.flatMap Token.write)) (depth : Nat) (rest : List Token) :
    (itemTokens items rest).flatMap Token.write =
      writeItems .compact depth items (rest.flatMap Token.write) := by
  induction items with
  | nil => rfl
  | cons item items ih =>
    obtain ⟨first, others⟩ := List.forall_mem_cons.mp written
    rw [itemTokens, List.flatMap_cons, first depth, ih others]
    rfl

theorem flatMap_memberTokens {members : List (String × Value)}
    (written : ∀ member ∈ members, ∀ depth rest, (member.2.tokensBefore rest).flatMap Token.write =
      member.2.write .compact depth (rest.flatMap Token.write)) (depth : Nat) (rest : List Token) :
    (memberTokens members rest).flatMap Token.write =
      writeMembers .compact depth members (rest.flatMap Token.write) := by
  induction members with
  | nil => rfl
  | cons member members ih =>
    obtain ⟨key, value⟩ := member
    obtain ⟨first, others⟩ := List.forall_mem_cons.mp written
    rw [memberTokens, List.flatMap_cons, List.flatMap_cons, List.flatMap_cons, first depth, ih others]
    simp [Token.write, writeMembers, Style.compact]

theorem flatMap_tokensBefore (value : Value) (depth : Nat) (rest : List Token) :
    (value.tokensBefore rest).flatMap Token.write =
      value.write .compact depth (rest.flatMap Token.write) := by
  induction value generalizing depth rest with
  | null | string text => rfl
  | bool b => cases b <;> rfl
  | integer n | double x =>
    rw [tokensBefore, List.flatMap_cons, Token.write, write_append]
    rfl
  | array items ih =>
    cases items with
    | nil => rfl
    | cons item items =>
      obtain ⟨first, others⟩ := List.forall_mem_cons.mp ih
      rw [tokensBefore, List.flatMap_cons, first (depth + 1), flatMap_itemTokens others (depth + 1)]
      rfl
  | object members ih =>
    cases members with
    | nil => rfl
    | cons member members =>
      obtain ⟨key, value⟩ := member
      obtain ⟨first, others⟩ := List.forall_mem_cons.mp ih
      rw [tokensBefore, List.flatMap_cons, List.flatMap_cons, List.flatMap_cons, first (depth + 1),
        flatMap_memberTokens others (depth + 1)]
      simp [Token.write, write, Style.compact]

/-- The compact text is that of the tokens without gaps. -/
theorem compact_eq_tokens (value : Value) :
    value.compact.toList = value.tokens.flatMap Token.write := by
  rw [compact, String.toList_ofList, tokens, flatMap_tokensBefore value 0]
  rfl

end Value

/-- Numbers and words end only where something follows that does not continue them. -/
def Token.RunsOn : Token → Prop
  | word _ _ | number _ => True
  | _ => False

/-- A token that is read back from its text. -/
def Token.Readable (token : Token) : Prop :=
  ∀ following, (token.RunsOn → Closes following) →
    readToken (token.write ++ following) = some (token, following)

theorem Token.readable_number {value : Value} (wellFormed : value.WellFormed)
    (numeral : (∃ n, value = .integer n) ∨ ∃ x, value = .double x) : (number value).Readable := by
  intro following runsOn
  have closes := runsOn trivial
  rcases numeral with ⟨n, rfl⟩ | ⟨x, rfl⟩
  · rw [write, Value.write, List.append_nil]
    exact readToken_integer wellFormed closes
  · rw [write, Value.write, List.append_nil]
    exact readToken_double wellFormed closes

namespace Value

/-- The tokens of a value are readable. -/
def TokensReadable (value : Value) : Prop :=
  ∀ rest, (∀ token ∈ rest, token.Readable) → ∀ token ∈ value.tokensBefore rest, token.Readable

theorem readable_itemTokens {items : List Value} (readable : ∀ item ∈ items, item.TokensReadable)
    {rest : List Token} (rest' : ∀ token ∈ rest, token.Readable) :
    ∀ token ∈ itemTokens items rest, token.Readable := by
  induction items with
  | nil => exact rest'
  | cons item items ih =>
    obtain ⟨first, others⟩ := List.forall_mem_cons.mp readable
    exact List.forall_mem_cons.mpr ⟨fun _ _ => rfl, first _ (ih others)⟩

theorem readable_member {key : String} {rest : List Token} (rest' : ∀ token ∈ rest, token.Readable) :
    ∀ token ∈ .text key :: .colon :: rest, token.Readable :=
  List.forall_mem_cons.mpr ⟨fun following _ => readToken_quoted key following,
    List.forall_mem_cons.mpr ⟨fun _ _ => rfl, rest'⟩⟩

theorem readable_memberTokens {members : List (String × Value)}
    (readable : ∀ member ∈ members, member.2.TokensReadable) {rest : List Token}
    (rest' : ∀ token ∈ rest, token.Readable) :
    ∀ token ∈ memberTokens members rest, token.Readable := by
  induction members with
  | nil => exact rest'
  | cons member members ih =>
    obtain ⟨key, value⟩ := member
    obtain ⟨first, others⟩ := List.forall_mem_cons.mp readable
    exact List.forall_mem_cons.mpr ⟨fun _ _ => rfl, readable_member (first _ (ih others))⟩

theorem tokensReadable {value : Value} (wellFormed : value.WellFormed) : value.TokensReadable := by
  induction value with
  | null =>
    intro rest rest'
    exact List.forall_mem_cons.mpr
      ⟨fun _ runsOn => (readToken_literals (runsOn trivial)).1, rest'⟩
  | bool b =>
    intro rest rest'
    cases b with
    | true =>
      exact List.forall_mem_cons.mpr
        ⟨fun _ runsOn => (readToken_literals (runsOn trivial)).2.1, rest'⟩
    | false =>
      exact List.forall_mem_cons.mpr
        ⟨fun _ runsOn => (readToken_literals (runsOn trivial)).2.2, rest'⟩
  | integer n =>
    intro rest rest'
    exact List.forall_mem_cons.mpr ⟨Token.readable_number wellFormed (.inl ⟨n, rfl⟩), rest'⟩
  | double x =>
    intro rest rest'
    exact List.forall_mem_cons.mpr ⟨Token.readable_number wellFormed (.inr ⟨x, rfl⟩), rest'⟩
  | string text =>
    intro rest rest'
    exact List.forall_mem_cons.mpr ⟨fun following _ => readToken_quoted text following, rest'⟩
  | array items ih =>
    intro rest rest'
    have items' := wellFormed_array.mp wellFormed
    have closing : ∀ token ∈ .closeBracket :: rest, token.Readable :=
      List.forall_mem_cons.mpr ⟨fun _ _ => rfl, rest'⟩
    cases items with
    | nil => exact List.forall_mem_cons.mpr ⟨fun _ _ => rfl, closing⟩
    | cons item items =>
      have readable : ∀ other ∈ item :: items, other.TokensReadable :=
        fun other member => ih other member (items' other member)
      obtain ⟨first, others⟩ := List.forall_mem_cons.mp readable
      exact List.forall_mem_cons.mpr
        ⟨fun _ _ => rfl, first _ (readable_itemTokens others closing)⟩
  | object members ih =>
    intro rest rest'
    have members' := (wellFormed_object.mp wellFormed).2
    have closing : ∀ token ∈ .closeBrace :: rest, token.Readable :=
      List.forall_mem_cons.mpr ⟨fun _ _ => rfl, rest'⟩
    cases members with
    | nil => exact List.forall_mem_cons.mpr ⟨fun _ _ => rfl, closing⟩
    | cons member members =>
      obtain ⟨key, value⟩ := member
      have readable : ∀ member ∈ (key, value) :: members, member.2.TokensReadable :=
        fun other inside => ih other inside (members' other inside)
      obtain ⟨first, others⟩ := List.forall_mem_cons.mp readable
      exact List.forall_mem_cons.mpr
        ⟨fun _ _ => rfl, readable_member (first _ (readable_memberTokens others closing))⟩

end Value

end PermissionRules.Document
