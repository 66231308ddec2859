/-! Paths as text. A path is cut at its slashes; empty segments and single dots add nothing to it,
except a leading dot, which counts as a segment of its own. -/
namespace PermissionRules.Files

abbrev Path := String

namespace Path

def isAbsolute (path : Path) : Bool :=
  path.toList.head? == some '/'

/-- Extends a path by a relative one; an absolute one replaces it. -/
def join (base part : Path) : Path :=
  if isAbsolute part || base.isEmpty then part
  else if base.toList.getLast? == some '/' then base ++ part
  else base ++ "/" ++ part

def cut : List Char → List (List Char)
  | [] => [[]]
  | c :: rest =>
    if c = '/' then [] :: cut rest
    else match cut rest with
      | [] => [[c]]
      | segment :: segments => (c :: segment) :: segments

def segments (path : Path) : List (List Char) :=
  cut path.toList

def ofSegments (segments : List (List Char)) : Path :=
  .ofList (List.intercalate ['/'] segments)

def isIdle (segment : List Char) : Bool :=
  segment.isEmpty || segment == ['.']

/-- The paths that end in each segment in turn, the longest first; `reversed` holds the segments
after `start`. -/
def endingIn (start : List (List Char)) : List (List Char) → List Path
  | [] => []
  | segment :: shorter =>
    let ending := endingIn start shorter
    if isIdle segment then ending
    else ofSegments (start ++ (segment :: shorter).reverse) :: ending

/-- A path and the paths above it, up to the root or the empty path. -/
def ancestors (path : Path) : List Path :=
  match segments path with
  | [] :: rest =>
    if isAbsolute path then endingIn [[]] rest.reverse ++ ["/"] else [""]
  | ['.'] :: rest => endingIn [['.']] rest.reverse ++ [".", ""]
  | segments => endingIn [] segments.reverse ++ [""]

/-- The path of the directory that holds what a path leads to. -/
def parent? (path : Path) : Option Path :=
  (ancestors path)[1]?

end Path
end PermissionRules.Files
