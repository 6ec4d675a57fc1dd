/-!
# Pieces of a text

A text cut at every occurrence of a separator: one piece more than there are separators.
-/

namespace Songbook.Text

def piecesOf (separator : Char) : List Char → List (List Char)
  | [] => [[]]
  | c :: rest =>
    if c = separator then [] :: piecesOf separator rest
    else match piecesOf separator rest with
      | [] => [[c]]
      | piece :: pieces => (c :: piece) :: pieces

def pieces (separator : Char) (s : String) : List String :=
  (piecesOf separator s.toList).map String.ofList

theorem piecesOf_ne_nil (separator : Char) (cs : List Char) : piecesOf separator cs ≠ [] := by
  induction cs with
  | nil => simp [piecesOf]
  | cons c rest ih =>
    by_cases h : c = separator
    · simp [piecesOf, h]
    · cases hp : piecesOf separator rest <;> simp [piecesOf, h, hp]

theorem piecesOf_of_not_mem {separator : Char} {cs : List Char} (h : separator ∉ cs) :
    piecesOf separator cs = [cs] := by
  induction cs with
  | nil => rfl
  | cons c rest ih =>
    simp only [List.mem_cons, not_or] at h
    simp [piecesOf, Ne.symm h.1, ih h.2]

end Songbook.Text
