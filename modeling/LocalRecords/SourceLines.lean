import LocalRecords.Text.Utf8

namespace LocalRecords

def Text.blankRanges : List (Nat × Nat) :=
  [(0x9, 0xd), (0x20, 0x20), (0x85, 0x85), (0xa0, 0xa0), (0x1680, 0x1680), (0x2000, 0x200a),
   (0x2028, 0x2029), (0x202f, 0x202f), (0x205f, 0x205f), (0x3000, 0x3000)]

def Text.isBlank (c : Char) : Bool := inRanges blankRanges c

namespace SourceLines

def splitLine : List Char → List Char × Option (List Char)
  | [] => ([], none)
  | '\n' :: rest => ([], some rest)
  | '\r' :: '\n' :: rest => ([], some rest)
  | c :: rest =>
    let r := splitLine rest
    (c :: r.1, r.2)

theorem length_lt_of_splitLine {cs rest : List Char} (h : (splitLine cs).2 = some rest) :
    rest.length < cs.length := by
  induction cs using splitLine.induct with
  | case1 => simp [splitLine] at h
  | case2 => simp [splitLine] at h; simp [h]
  | case3 =>
    simp only [splitLine, Option.some.injEq] at h
    simp only [h, List.length_cons]
    omega
  | case4 c cs _ _ ih =>
    rw [splitLine] at h
    · have := ih h
      simp only [List.length_cons]
      omega
    all_goals assumption

def lines (cs : List Char) : List (List Char) :=
  if cs.isEmpty then []
  else
    match _h : splitLine cs with
    | (line, none) => [line]
    | (line, some rest) => line :: lines rest
termination_by cs.length
decreasing_by exact length_lt_of_splitLine (by rw [_h])

/-- Whether a line starts with the given text once leading blanks are left out. -/
def beginsWith (start : String) (line : List Char) : Bool :=
  start.toList.isPrefixOf (line.dropWhile Text.isBlank)

def isTestMarker (line : List Char) : Bool := beginsWith "#[cfg(test)]" line

def isComment (line : List Char) : Bool := beginsWith "//" line

def production (text : String) : List (Nat × String) :=
  let numbered := (lines text.toList).zipIdx 1
  let before := numbered.takeWhile fun l => !isTestMarker l.1
  (before.filter fun l => !isComment l.1).map fun l => (l.2, String.ofList l.1)

end SourceLines

end LocalRecords
