import PermissionRules.Proofs.Document.Layout
import PermissionRules.Proofs.Document.TextTokens
import PermissionRules.Proofs.Document.Value

/-! The tokens of a written value. They do not depend on the style, whose layout only stands between
them, and each token of the value is one token of the text. -/
namespace PermissionRules.Document
open Text

/-- The layout of a style is blank, and a line break is empty or starts a new line. -/
structure Style.Blank (style : Style) : Prop where
  lineBreak : ∀ depth, ∀ c ∈ style.lineBreak depth, isLayoutBlank c = true
  newLine : ∀ depth, ∀ c ∈ (style.lineBreak depth).head?, c = '\n'
  afterColon : ∀ c ∈ style.afterColon, isLayoutBlank c = true

theorem Style.compact_blank : Style.compact.Blank :=
  ⟨fun _ => nofun, fun _ => nofun, nofun⟩

theorem Style.pretty_blank : Style.pretty.Blank := by
  refine ⟨?_, ?_, ?_⟩
  · intro depth c member
    simp only [Style.pretty, List.mem_cons, List.mem_replicate] at member
    rcases member with rfl | ⟨_, rfl⟩ <;> rfl
  · rintro depth c ⟨⟩
    rfl
  · intro c member
    rw [List.mem_singleton.mp member]
    rfl

namespace Value

mutual

/-- The tokens of a value before those of what follows it. -/
def tokensBefore (value : Value) (following : List Token) : List Token :=
  match value with
  | null => .word "null" true :: following
  | bool true => .word "true" true :: following
  | bool false => .word "false" true :: following
  | integer n => .number (.integer n) :: following
  | double x => .number (.double x) :: following
  | string text => .text text :: following
  | array [] => .openBracket :: .closeBracket :: following
  | array (item :: rest) =>
    .openBracket :: tokensBefore item (itemTokens rest (.closeBracket :: following))
  | object [] => .openBrace :: .closeBrace :: following
  | object ((key, value) :: rest) =>
    .openBrace :: .text key :: .colon ::
      tokensBefore value (memberTokens rest (.closeBrace :: following))
termination_by structural value

/-- The tokens of the items after the first. -/
def itemTokens (items : List Value) (following : List Token) : List Token :=
  match items with
  | [] => following
  | item :: rest => .comma :: tokensBefore item (itemTokens rest following)
termination_by structural items

/-- The tokens of the members after the first. -/
def memberTokens (members : List (String × Value)) (following : List Token) : List Token :=
  match members with
  | [] => following
  | (key, value) :: rest =>
    .comma :: .text key :: .colon :: tokensBefore value (memberTokens rest following)
termination_by structural members

end

end Value

variable {style : Style} {following : List Char}

theorem closes_bracket (blank : style.Blank) (depth : Nat) {bracket : Char}
    (closing : bracket ∈ [']', '}']) : Closes (style.lineBreak depth ++ bracket :: following) := by
  cases layout : style.lineBreak depth with
  | nil =>
    have member : ∀ c ∈ [']', '}'], c ∈ closingCharacters := forall_mem_of_all (by decide)
    exact closes_cons (member bracket closing) following
  | cons first rest =>
    have first' := blank.newLine depth first (by rw [layout]; rfl)
    subst first
    exact closes_cons (by decide) _

theorem closes_writeItems (closes : Closes following) (depth : Nat) (items : List Value) :
    Closes (Value.writeItems style depth items following) := by
  cases items with
  | nil => exact closes
  | cons item rest => exact closes_cons (by decide) _

theorem closes_writeMembers (closes : Closes following) (depth : Nat)
    (members : List (String × Value)) :
    Closes (Value.writeMembers style depth members following) := by
  cases members with
  | nil => exact closes
  | cons member rest => exact closes_cons (by decide) _

/-- Where a value is written, its tokens are read. -/
def Value.TokensWritten (style : Style) (value : Value) : Prop :=
  ∀ depth following, Closes following →
    tokens (value.write style depth following) = (tokens following).map value.tokensBefore

theorem tokens_writeItems (blank : style.Blank) {items : List Value}
    (written : ∀ item ∈ items, item.TokensWritten style) (depth : Nat) (closes : Closes following) :
    tokens (Value.writeItems style depth items following) =
      (tokens following).map (Value.itemTokens items) := by
  induction items with
  | nil => exact Option.map_id'.symm
  | cons item rest ih =>
    rw [Value.writeItems, List.cons_append, tokens_token rfl, tokens_blank (blank.lineBreak depth),
      written item List.mem_cons_self depth _ (closes_writeItems closes depth rest),
      ih fun item member => written item (List.mem_cons_of_mem _ member)]
    simp only [Option.map_map]
    rfl

theorem tokens_key (blank : style.Blank) (depth : Nat) (key : String) (text : List Char) :
    tokens (style.lineBreak depth ++ quoted key ++ ':' :: style.afterColon ++ text) =
      (tokens text).map fun rest => .text key :: .colon :: rest := by
  rw [List.append_assoc, List.append_assoc, tokens_blank (blank.lineBreak depth),
    tokens_token (readToken_quoted key _), List.cons_append, tokens_token rfl,
    tokens_blank blank.afterColon, Option.map_map]
  rfl

theorem tokens_writeMembers (blank : style.Blank) {members : List (String × Value)}
    (written : ∀ member ∈ members, member.2.TokensWritten style) (depth : Nat)
    (closes : Closes following) :
    tokens (Value.writeMembers style depth members following) =
      (tokens following).map (Value.memberTokens members) := by
  induction members with
  | nil => exact Option.map_id'.symm
  | cons member rest ih =>
    obtain ⟨key, value⟩ := member
    have first := written (key, value) List.mem_cons_self
    rw [Value.writeMembers, List.cons_append, List.cons_append, List.cons_append,
      tokens_token rfl, tokens_key blank,
      first depth _ (closes_writeMembers closes depth rest),
      ih fun member inside => written member (List.mem_cons_of_mem _ inside)]
    simp only [Option.map_map]
    rfl

/-- A written value is cut into its own tokens, whatever follows it. -/
theorem tokens_write (blank : style.Blank) {value : Value} (wellFormed : value.WellFormed) :
    value.TokensWritten style := by
  induction value with
  | null =>
    intro depth following closes
    exact tokens_token (readToken_literals closes).1
  | bool b =>
    intro depth following closes
    cases b with
    | true => exact tokens_token (readToken_literals closes).2.1
    | false => exact tokens_token (readToken_literals closes).2.2
  | integer n =>
    intro depth following closes
    exact tokens_token (readToken_integer wellFormed closes)
  | double x =>
    intro depth following closes
    exact tokens_token (readToken_double wellFormed closes)
  | string text =>
    intro depth following closes
    exact tokens_token (readToken_quoted text following)
  | array items ih =>
    intro depth following closes
    have items' := Value.wellFormed_array.mp wellFormed
    cases items with
    | nil =>
      rw [Value.write, tokens_token rfl, tokens_token rfl, Option.map_map]
      rfl
    | cons item rest =>
      have closing : Closes (style.lineBreak depth ++ ']' :: following) :=
        closes_bracket blank depth (by decide)
      have written : ∀ other ∈ item :: rest, other.TokensWritten style :=
        fun other member => ih other member (items' other member)
      rw [Value.write, List.cons_append, tokens_token rfl, tokens_blank (blank.lineBreak _),
        written item List.mem_cons_self _ _ (closes_writeItems closing _ rest),
        tokens_writeItems blank (fun item member => written item (List.mem_cons_of_mem _ member)) _
          closing,
        tokens_blank (blank.lineBreak depth), tokens_token rfl]
      simp only [Option.map_map]
      rfl
  | object members ih =>
    intro depth following closes
    have members' := (Value.wellFormed_object.mp wellFormed).2
    cases members with
    | nil =>
      rw [Value.write, tokens_token rfl, tokens_token rfl, Option.map_map]
      rfl
    | cons member rest =>
      obtain ⟨key, value⟩ := member
      have closing : Closes (style.lineBreak depth ++ '}' :: following) :=
        closes_bracket blank depth (by decide)
      have written : ∀ member ∈ (key, value) :: rest, member.2.TokensWritten style :=
        fun member inside => ih member inside (members' member inside)
      have first := written (key, value) List.mem_cons_self
      rw [Value.write, List.cons_append, List.cons_append, List.cons_append, tokens_token rfl,
        tokens_key blank, first _ _ (closes_writeMembers closing _ rest),
        tokens_writeMembers blank (fun member inside => written member (List.mem_cons_of_mem _ inside))
          _ closing,
        tokens_blank (blank.lineBreak depth), tokens_token rfl]
      simp only [Option.map_map]
      rfl

end PermissionRules.Document
