import PermissionRules.Document.Reading
import PermissionRules.Proofs.Document.ReadBack
import PermissionRules.Proofs.Ordered.Kept

/-! What tokens denote. The machine that reads tokens one after the other accepts the lists that denote a value
and returns this value. It is told what each state owes to the tokens before it: the containers that are open,
their elements so far and, in the end, the value. Of members with one key an object keeps the place of the first
and the value of the last, at every depth. -/
namespace PermissionRules.Document
open Reading

/-- The key that a token stands for: the text of a string in quotes of either kind or of a word, with or without
escapes. -/
inductive Token.IsKey : Token → String → Prop where
  | text {key} : IsKey (.text key) key
  | word {key plain} : IsKey (.word key plain) key

/-- The elements of a container up to its end, with commas between them and perhaps one behind the last. -/
inductive Listed {α : Type} (Element : List Token → α → Prop) (closing : Token) :
    List Token → List α → Prop where
  | none : Listed Element closing [closing] []
  | last {tokens a} : Element tokens a → Listed Element closing (tokens ++ [closing]) [a]
  | more {tokens a rest as} : Element tokens a → Listed Element closing rest as →
      Listed Element closing (tokens ++ .comma :: rest) (a :: as)

/-- A member of an object: its key, a colon and its value. -/
inductive Member (Element : List Token → Value → Prop) : List Token → String × Value → Prop where
  | member {token key tokens value} : token.IsKey key → Element tokens value →
      Member Element (token :: .colon :: tokens) (key, value)

/-- The value that tokens denote. -/
inductive Denotes : List Token → Value → Prop where
  | text {content} : Denotes [.text content] (.string content)
  | number {value} : Denotes [.number value] value
  | literal {name value} : literal? name = some value → Denotes [.word name true] value
  | array {tokens items} : Listed Denotes .closeBracket tokens items →
      Denotes (.openBracket :: tokens) (.array items)
  | object {tokens written members} : Listed (Member Denotes) .closeBrace tokens written →
      Ordered.Kept written members → Denotes (.openBrace :: tokens) (.object members)

/-! ### What is denoted is read -/

/-- Tokens that complete a value where a value is due. -/
def Completes (tokens : List Token) (value : Value) : Prop :=
  ∀ reading stack rest, Awaits reading stack →
    (tokens ++ rest).foldlM step? reading = rest.foldlM step? (.complete value stack)

theorem completes_one {token : Token} {value : Value} (other : token ≠ .closeBracket)
    (begun : ∀ stack, begin? stack token = some (.complete value stack)) : Completes [token] value :=
  fun _ stack _ awaits => foldlM_begin awaits token other (begun stack)

/-- The states in which a container is read: `due` where an element or the end is due, `after` where an element
is complete, and `close` behind the end, with the elements read before, the newest first. -/
structure ReadsListed {α : Type} (Element : List Token → α → Prop) (closing : Token)
    (due : List α → Reading) (after : List α → α → Reading) (close : List α → Reading) : Prop where
  none : ∀ read, (due read).step? closing = some (close read)
  element : ∀ tokens a, Element tokens a → ∀ read rest,
    (tokens ++ rest).foldlM step? (due read) = rest.foldlM step? (after read a)
  comma : ∀ read a, (after read a).step? .comma = some (due (a :: read))
  last : ∀ read a, (after read a).step? closing = some (close (a :: read))

theorem ReadsListed.foldlM {α : Type} {Element : List Token → α → Prop} {closing : Token}
    {due close : List α → Reading} {after : List α → α → Reading}
    (reads : ReadsListed Element closing due after close) {tokens : List Token} {as : List α}
    (listed : Listed Element closing tokens as) (read : List α) (rest : List Token) :
    (tokens ++ rest).foldlM step? (due read) = rest.foldlM step? (close (as.reverse ++ read)) := by
  induction listed generalizing read with
  | none => exact foldlM_step (reads.none read)
  | last first =>
    rw [List.append_assoc, reads.element _ _ first, List.singleton_append, foldlM_step (reads.last read _)]
    rfl
  | more first _ ih =>
    rw [List.append_assoc, reads.element _ _ first, List.cons_append, foldlM_step (reads.comma read _), ih,
      List.reverse_cons, List.append_assoc, List.singleton_append]

section
variable {tokens : List Token} {value : Value}

theorem completes_array {items : List Value} (listed : Listed Completes .closeBracket tokens items) :
    Completes (.openBracket :: tokens) (.array items) := by
  intro reading stack rest awaits
  have reads : ReadsListed Completes .closeBracket (fun items => .awaitItem items stack)
      (fun items item => .complete item (.array items :: stack)) (fun items => closeArray items stack) :=
    ⟨fun _ => rfl, fun _ _ item items rest => item _ _ rest (awaits_item items stack), fun _ _ => rfl,
      fun _ _ => rfl⟩
  rw [List.cons_append, foldlM_begin awaits .openBracket nofun rfl, reads.foldlM listed [] rest, closeArray,
    List.append_nil, List.reverse_reverse]

theorem foldlM_key {token : Token} {key : String} (isKey : token.IsKey key) (members : List (String × Value))
    (stack : List Frame) (rest : List Token) :
    (token :: .colon :: rest).foldlM step? (.awaitKey members stack) =
      rest.foldlM step? (.awaitValue (.object members key :: stack)) := by
  cases isKey with
  | text | word => exact (foldlM_step rfl).trans (foldlM_step rfl)

theorem completes_object {written members : List (String × Value)}
    (listed : Listed (Member Completes) .closeBrace tokens written) (kept : Ordered.Kept written members) :
    Completes (.openBrace :: tokens) (.object members) := by
  intro reading stack rest awaits
  have reads : ReadsListed (Member Completes) .closeBrace (fun members => .awaitKey members stack)
      (fun members member => .complete member.2 (.object members member.1 :: stack))
      (fun members => closeObject members stack) := by
    refine ⟨fun _ => rfl, ?_, fun _ _ => rfl, fun _ _ => rfl⟩
    intro tokens member read members rest
    cases read with
    | member isKey value =>
      rw [List.cons_append, List.cons_append, foldlM_key isKey]
      exact value _ _ rest (awaits_value _)
  rw [List.cons_append, foldlM_begin awaits .openBrace nofun rfl, reads.foldlM listed [] rest, closeObject,
    List.append_nil, List.reverse_reverse, ← Ordered.kept_iff.mp kept]

theorem completes_of_denotes (denotes : Denotes tokens value) : Completes tokens value := by
  refine Denotes.rec (motive_1 := fun tokens value _ => Completes tokens value)
    (motive_2 := fun tokens items _ => Listed Completes .closeBracket tokens items)
    (motive_3 := fun tokens written _ => Listed (Member Completes) .closeBrace tokens written)
    (motive_4 := fun tokens member _ => Member Completes tokens member)
    ?_ ?_ ?_ ?_ ?_ .none (fun _ => .last) (fun _ _ => .more) .none (fun _ => .last) (fun _ _ => .more)
    (fun isKey _ => .member isKey) denotes
  · exact completes_one nofun fun _ => rfl
  · exact completes_one nofun fun _ => rfl
  · intro name value literal
    exact completes_one nofun fun stack => by rw [begin?, literal]; rfl
  · exact fun _ => completes_array
  · exact fun _ kept listed => completes_object listed kept

end

/-! ### What is read is denoted -/

/-- The elements of a container that is open, the newest first, with a comma behind each of them. -/
inductive Opened {α : Type} (Element : List Token → α → Prop) : List Token → List α → Prop where
  | none : Opened Element [] []
  | comma {tokens as piece a} : Opened Element tokens as → Element piece a →
      Opened Element (tokens ++ (piece ++ [.comma])) (a :: as)

theorem Opened.listed {α : Type} {Element : List Token → α → Prop} {closing : Token} {tokens rest : List Token}
    {as bs : List α} (opened : Opened Element tokens as) (listed : Listed Element closing rest bs) :
    Listed Element closing (tokens ++ rest) (as.reverse ++ bs) := by
  induction opened generalizing rest bs with
  | none => exact listed
  | comma _ element ih =>
    simp only [List.append_assoc, List.singleton_append, List.reverse_cons]
    exact ih (.more element listed)

/-- The tokens that opened the containers on the stack, up to a place where a value is due. -/
inductive Opens : List Frame → List Token → Prop where
  | none : Opens [] []
  | array {stack before tokens items} : Opens stack before → Opened Denotes tokens items →
      Opens (.array items :: stack) (before ++ .openBracket :: tokens)
  | object {stack before tokens members token key} : Opens stack before →
      Opened (Member Denotes) tokens members → token.IsKey key →
      Opens (.object members key :: stack) (before ++ .openBrace :: (tokens ++ [token, .colon]))

/-- The tokens that lead to a state. -/
inductive LeadsTo : List Token → Reading → Prop where
  | awaitValue {stack tokens} : Opens stack tokens → LeadsTo tokens (.awaitValue stack)
  | awaitItem {items stack tokens} : Opens (.array items :: stack) tokens →
      LeadsTo tokens (.awaitItem items stack)
  | awaitKey {members stack before tokens} : Opens stack before → Opened (Member Denotes) tokens members →
      LeadsTo (before ++ .openBrace :: tokens) (.awaitKey members stack)
  | awaitColon {members stack before tokens token key} : Opens stack before →
      Opened (Member Denotes) tokens members → token.IsKey key →
      LeadsTo (before ++ .openBrace :: (tokens ++ [token])) (.awaitColon members key stack)
  | complete {value stack before tokens} : Opens stack before → Denotes tokens value →
      LeadsTo (before ++ tokens) (.complete value stack)

variable {tokens : List Token} {value : Value} {stack : List Frame} {reading next : Reading} {token : Token}

theorem leadsTo_begin? (opens : Opens stack tokens) (begun : begin? stack token = some next) :
    LeadsTo (tokens ++ [token]) next := by
  unfold begin? at begun
  split at begun
  · cases begun
    exact .awaitItem (.array opens .none)
  · cases begun
    exact .awaitKey opens .none
  · cases begun
    exact .complete opens .text
  · cases begun
    exact .complete opens .number
  · obtain ⟨value, literal, rfl⟩ := Option.map_eq_some_iff.mp begun
    exact .complete opens (.literal literal)
  · contradiction

theorem leadsTo_closeArray {before : List Token} {items rest : List Value} {ending : List Token}
    (opens : Opens stack before) (opened : Opened Denotes tokens items)
    (listed : Listed Denotes .closeBracket ending rest) :
    LeadsTo (before ++ .openBracket :: (tokens ++ ending)) (closeArray (rest.reverse ++ items) stack) := by
  rw [closeArray, List.reverse_append, List.reverse_reverse]
  exact .complete opens (.array (opened.listed listed))

theorem leadsTo_closeObject {before : List Token} {members rest : List (String × Value)} {ending : List Token}
    (opens : Opens stack before) (opened : Opened (Member Denotes) tokens members)
    (listed : Listed (Member Denotes) .closeBrace ending rest) :
    LeadsTo (before ++ .openBrace :: (tokens ++ ending)) (closeObject (rest.reverse ++ members) stack) := by
  rw [closeObject, List.reverse_append, List.reverse_reverse]
  exact .complete opens (.object (opened.listed listed) (Ordered.kept_ofWritten _))

/-- One more token leads from state to state. -/
theorem LeadsTo.step (leads : LeadsTo tokens reading) (stepped : reading.step? token = some next) :
    LeadsTo (tokens ++ [token]) next := by
  unfold step? at stepped
  split at stepped
  case h_1 =>
    cases leads with
    | awaitValue opens => exact leadsTo_begin? opens stepped
  case h_2 =>
    cases stepped
    cases leads with
    | awaitItem opens =>
      cases opens with
      | array opens opened =>
        rw [List.append_assoc, List.cons_append]
        exact leadsTo_closeArray opens opened .none
  case h_3 =>
    cases leads with
    | awaitItem opens => exact leadsTo_begin? opens stepped
  case h_4 =>
    cases stepped
    cases leads with
    | awaitKey opens opened =>
      rw [List.append_assoc, List.cons_append]
      exact leadsTo_closeObject opens opened .none
  case h_5 | h_6 =>
    cases stepped
    cases leads with
    | awaitKey opens opened =>
      rw [List.append_assoc, List.cons_append]
      exact .awaitColon opens opened (by constructor)
  case h_7 =>
    cases stepped
    cases leads with
    | awaitColon opens opened isKey =>
      rw [List.append_assoc, List.cons_append, List.append_assoc]
      exact .awaitValue (.object opens opened isKey)
  case h_8 =>
    cases stepped
    cases leads with
    | complete opens denotes =>
      cases opens with
      | array opens opened =>
        simp only [List.append_assoc, List.cons_append]
        exact .awaitItem (.array opens (.comma opened denotes))
  case h_9 =>
    cases stepped
    cases leads with
    | complete opens denotes =>
      cases opens with
      | array opens opened =>
        simp only [List.append_assoc, List.cons_append]
        exact leadsTo_closeArray opens opened (.last denotes)
  case h_10 =>
    cases stepped
    cases leads with
    | complete opens denotes =>
      cases opens with
      | object opens opened isKey =>
        simp only [List.append_assoc, List.cons_append]
        exact .awaitKey opens (.comma opened (.member isKey denotes))
  case h_11 =>
    cases stepped
    cases leads with
    | complete opens denotes =>
      cases opens with
      | object opens opened isKey =>
        simp only [List.append_assoc, List.cons_append]
        exact leadsTo_closeObject opens opened (.last (.member isKey denotes))
  case h_12 => contradiction

theorem LeadsTo.foldlM {rest : List Token} (leads : LeadsTo tokens reading)
    (read : rest.foldlM step? reading = some next) : LeadsTo (tokens ++ rest) next := by
  induction rest generalizing tokens reading with
  | nil =>
    cases read
    rw [List.append_nil]
    exact leads
  | cons token rest ih =>
    rw [List.foldlM_cons] at read
    obtain ⟨after, stepped, read⟩ := Option.bind_eq_some_iff.mp read
    rw [List.append_cons]
    exact ih (leads.step stepped) read

/-- The tokens that are read as a value are those that denote it. -/
theorem ofTokens?_iff : ofTokens? tokens = some value ↔ Denotes tokens value := by
  constructor
  · intro read
    obtain ⟨reading, read, finished⟩ := Option.bind_eq_some_iff.mp read
    have leads : LeadsTo tokens reading := (LeadsTo.awaitValue .none).foldlM read
    cases leads with
    | complete opens denotes =>
      cases opens with
      | none =>
        cases finished
        exact denotes
      | array | object => contradiction
    | awaitValue | awaitItem | awaitKey | awaitColon => contradiction
  · intro denotes
    have read := completes_of_denotes denotes start [] [] (awaits_value [])
    rw [List.append_nil] at read
    rw [ofTokens?, read]
    rfl

end PermissionRules.Document
