import PermissionRules.Double.Basic
import PermissionRules.Ordered

/-! Document values. Integers are kept apart from doubles and the members of an object keep the order
in which they were written. -/
namespace PermissionRules.Document

inductive Value where
  | null
  | bool (value : Bool)
  | integer (value : Int)
  | double (value : Double)
  | string (text : String)
  | array (items : List Value)
  | object (members : List (String × Value))
  deriving Repr

namespace Value

def string? : Value → Option String
  | string text => some text
  | _ => none

def array? : Value → Option (List Value)
  | array items => some items
  | _ => none

def object? : Value → Option (Ordered String Value)
  | object members => some members
  | _ => none

/-- The value under a key of an object. -/
def get? (value : Value) (key : String) : Option Value :=
  value.object?.bind (Ordered.get? · key)

/-- Integers of 64 bits, signed or unsigned. -/
def IntegerInRange (n : Int) : Prop :=
  -Int.pow 2 63 ≤ n ∧ n < Int.pow 2 64

instance (n : Int) : Decidable (IntegerInRange n) :=
  inferInstanceAs (Decidable (_ ∧ _))

mutual

/-- Integers are in range, doubles finite and the keys of each object distinct, at every depth. -/
def WellFormed : Value → Prop
  | null | bool _ | string _ => True
  | integer n => IntegerInRange n
  | double x => x.IsFinite
  | array items => ItemsWellFormed items
  | object members => (Ordered.keys members).Nodup ∧ MembersWellFormed members
termination_by structural value => value

def ItemsWellFormed : List Value → Prop
  | [] => True
  | item :: rest => WellFormed item ∧ ItemsWellFormed rest
termination_by structural items => items

def MembersWellFormed : List (String × Value) → Prop
  | [] => True
  | (_, value) :: rest => WellFormed value ∧ MembersWellFormed rest
termination_by structural members => members

end

mutual

def decideEq : (a b : Value) → Decidable (a = b)
  | null, null => isTrue rfl
  | bool a, bool b => decidable_of_iff (a = b) (by simp)
  | integer a, integer b => decidable_of_iff (a = b) (by simp)
  | double a, double b => decidable_of_iff (a = b) (by simp)
  | string a, string b => decidable_of_iff (a = b) (by simp)
  | array a, array b => have := decideItemsEq a b; decidable_of_iff (a = b) (by simp)
  | object a, object b => have := decideMembersEq a b; decidable_of_iff (a = b) (by simp)
  | null, bool _ | null, integer _ | null, double _ | null, string _ | null, array _
  | null, object _ | bool _, null | bool _, integer _ | bool _, double _ | bool _, string _
  | bool _, array _ | bool _, object _ | integer _, null | integer _, bool _
  | integer _, double _ | integer _, string _ | integer _, array _ | integer _, object _
  | double _, null | double _, bool _ | double _, integer _ | double _, string _
  | double _, array _ | double _, object _ | string _, null | string _, bool _
  | string _, integer _ | string _, double _ | string _, array _ | string _, object _
  | array _, null | array _, bool _ | array _, integer _ | array _, double _ | array _, string _
  | array _, object _ | object _, null | object _, bool _ | object _, integer _
  | object _, double _ | object _, string _ | object _, array _ => isFalse nofun
termination_by structural a => a

def decideItemsEq : (a b : List Value) → Decidable (a = b)
  | [], [] => isTrue rfl
  | a :: as, b :: bs =>
    have := decideEq a b
    have := decideItemsEq as bs
    decidable_of_iff (a = b ∧ as = bs) (by simp)
  | [], _ :: _ | _ :: _, [] => isFalse nofun
termination_by structural a => a

def decideMembersEq : (a b : List (String × Value)) → Decidable (a = b)
  | [], [] => isTrue rfl
  | (key, a) :: as, (key', b) :: bs =>
    have := decideEq a b
    have := decideMembersEq as bs
    decidable_of_iff (key = key' ∧ a = b ∧ as = bs) (by simp [and_assoc])
  | [], _ :: _ | _ :: _, [] => isFalse nofun
termination_by structural a => a

end

instance : DecidableEq Value := decideEq

end Value
end PermissionRules.Document
