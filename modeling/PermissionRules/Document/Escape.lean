import PermissionRules.Document.Hex
import PermissionRules.Document.Layout

/-! Backslash escapes of a document text, read after their backslash. -/
namespace PermissionRules.Document

/-- The character of a Unicode escape, read after its `u`. A lead surrogate is followed at once by
the escape of its trail. -/
def readUnicodeEscape (text : List Char) : Option (Char × List Char) :=
  match readHex 4 text with
  | none => none
  | some (unit, rest) =>
    if isLead unit then
      match rest with
      | '\\' :: 'u' :: second =>
        match readHex 4 second with
        | none => none
        | some (trail, rest) =>
          if isTrail trail then some (surrogatePair unit trail, rest) else none
      | _ => none
    else if isTrail unit then none
    else some (.ofNat unit, rest)

@[grind →]
theorem readUnicodeEscape_length {c : Char} {text rest : List Char}
    (read : readUnicodeEscape text = some (c, rest)) : rest.length ≤ text.length := by
  grind [readUnicodeEscape]

/-- What an escape in a string stands for: one character, or none where it continues the line. Every
character but the digits from one to nine may be escaped. -/
def readEscape : List Char → Option (List Char × List Char)
  | [] => none
  | 'b' :: rest => some (['\x08'], rest)
  | 't' :: rest => some (['\t'], rest)
  | 'n' :: rest => some (['\n'], rest)
  | 'v' :: rest => some (['\x0b'], rest)
  | 'f' :: rest => some (['\x0c'], rest)
  | 'r' :: rest => some (['\r'], rest)
  | '0' :: rest => if (rest.head?.map Char.isDigit).getD false then none else some (['\x00'], rest)
  | 'x' :: rest => (readHex 2 rest).map fun (n, rest) => ([.ofNat n], rest)
  | 'u' :: rest => (readUnicodeEscape rest).map fun (c, rest) => ([c], rest)
  | '\r' :: '\n' :: rest => some ([], rest)
  | c :: rest =>
    if isLineEnd c then some ([], rest)
    else if c.isDigit then none
    else some ([c], rest)

@[grind →]
theorem readEscape_length {cs text rest : List Char}
    (read : readEscape text = some (cs, rest)) : rest.length ≤ text.length := by
  unfold readEscape at read
  split at read <;> grind [Option.map_eq_some_iff]

end PermissionRules.Document
