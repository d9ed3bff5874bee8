/-!
Texts as pieces around a separator. Cutting gives one piece more than there are separators; empty
pieces are kept.
-/

namespace Depot.Text

def cutAt (mark : Char) : List Char → List (List Char)
  | [] => [[]]
  | c :: cs =>
    if c = mark then [] :: cutAt mark cs
    else
      match cutAt mark cs with
      | [] => [[c]]
      | piece :: rest => (c :: piece) :: rest

def segments (s : String) : List String := (cutAt '/' s.toList).map String.ofList

def breakAt (mark : Char) : List Char → List Char × Option (List Char)
  | [] => ([], none)
  | c :: cs =>
    if c = mark then ([], some cs)
    else
      let (before, after) := breakAt mark cs
      (c :: before, after)

end Depot.Text
