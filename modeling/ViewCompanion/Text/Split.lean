/-!
Cutting and joining texts. Every function here works on the characters of a text, from the left
unless it says otherwise.
-/

namespace ViewCompanion.Text

/-- What follows `front` in `s`, when `s` begins with it. -/
def dropFront? : List Char → List Char → Option (List Char)
  | [], s => some s
  | _ :: _, [] => none
  | c :: front, d :: s => if c = d then dropFront? front s else none

theorem dropFront?_eq_some_iff {front s rest : List Char} :
    dropFront? front s = some rest ↔ s = front ++ rest := by
  induction front generalizing s with
  | nil => simp [dropFront?]
  | cons c front ih =>
    cases s with
    | nil => simp [dropFront?]
    | cons d s =>
      by_cases h : c = d
      · simp [dropFront?, h, ih]
      · simp [dropFront?, h, Ne.symm h]

/-- The texts on both sides of the first `mark`. -/
def cutFirst? (mark : List Char) : List Char → Option (List Char × List Char)
  | [] => if mark = [] then some ([], []) else none
  | c :: s =>
    match dropFront? mark (c :: s) with
    | some rest => some ([], rest)
    | none => (cutFirst? mark s).map fun (before, after) => (c :: before, after)

/-- The texts on both sides of the last `mark`. -/
def cutLast? (mark s : List Char) : Option (List Char × List Char) :=
  (cutFirst? mark.reverse s.reverse).map fun (after, before) => (before.reverse, after.reverse)

/-- `s` with every `old` made `new`; found from the left, without overlap. -/
def replaceAll (old new : List Char) (s : List Char) : List Char :=
  go s.length s
where
  go : Nat → List Char → List Char
    | 0, s => s
    | _ + 1, [] => []
    | fuel + 1, c :: s =>
      match dropFront? old (c :: s) with
      | some rest => if old = [] then c :: s else new ++ go fuel rest
      | none => c :: go fuel s

/-- The texts with `mark` between each two. -/
def joinWith (mark : List Char) : List (List Char) → List Char
  | [] => []
  | [s] => s
  | s :: t :: rest => s ++ mark ++ joinWith mark (t :: rest)

/-- The pieces of `s` between the occurrences of the character `mark`. -/
def splitAt (mark : Char) : List Char → List (List Char)
  | [] => [[]]
  | c :: s =>
    if c = mark then [] :: splitAt mark s
    else match splitAt mark s with
      | [] => [[c]]
      | piece :: rest => (c :: piece) :: rest

def join (mark : String) (texts : List String) : String :=
  String.ofList (joinWith mark.toList (texts.map String.toList))

def commaList (texts : List String) : String :=
  join ", " texts

end ViewCompanion.Text
