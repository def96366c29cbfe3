import Mathlib.Data.List.TakeWhile
import LocalRecords.SourceLines

namespace LocalRecords.SourceLines

/-- What stands behind a line, and the text behind its end. A carriage return before the newline
belongs to the end. At the end of a text a line has no end of its own. -/
inductive Ends (line : List Char) : List Char → Option (List Char) → Prop
  | newline (rest : List Char) (hline : line.getLast? ≠ some '\r') :
      Ends line ('\n' :: rest) (some rest)
  | both (rest : List Char) : Ends line ('\r' :: '\n' :: rest) (some rest)
  | text : Ends line [] none

def Begins (before : List Char) : Prop := before = [] ∨ before.getLast? = some '\n'

/-- The line of a text that has the given number, counted from 1. Where nothing of the text is left
there is no line. -/
inductive IsLine (text : List Char) : Nat → List Char → Prop
  | intro {before line behind : List Char} {after : Option (List Char)}
      (split : text = before ++ (line ++ behind)) (begins : Begins before) (single : '\n' ∉ line)
      (ends : Ends line behind after) (left : line ++ behind ≠ []) :
      IsLine text (before.count '\n' + 1) line

def Opens (start : String) (line : List Char) : Prop :=
  ∃ blanks rest, line = blanks ++ (start.toList ++ rest) ∧ ∀ c ∈ blanks, Text.isBlank c = true

/-- A line starts with a text behind its blanks exactly if `beginsWith` says so, for a text that
starts with no blank. -/
theorem beginsWith_iff {start : String} {first : Char} {more : List Char}
    (hstart : start.toList = first :: more) (hfirst : Text.isBlank first = false)
    (line : List Char) : beginsWith start line = true ↔ Opens start line := by
  rw [beginsWith, List.isPrefixOf_iff_prefix]
  constructor
  · rintro ⟨rest, hrest⟩
    refine ⟨line.takeWhile Text.isBlank, rest, ?_, fun c hc => List.mem_takeWhile_imp hc⟩
    rw [hrest, List.takeWhile_append_dropWhile]
  · rintro ⟨blanks, rest, rfl, hblanks⟩
    refine ⟨rest, ?_⟩
    rw [List.dropWhile_append_of_pos hblanks, hstart, List.cons_append,
      List.dropWhile_cons_of_neg (by rw [hfirst]; exact Bool.false_ne_true)]

theorem isTestMarker_iff (line : List Char) :
    isTestMarker line = true ↔ Opens "#[cfg(test)]" line := beginsWith_iff rfl (by decide) line

theorem not_isTestMarker_iff (line : List Char) :
    (!isTestMarker line) = true ↔ ¬Opens "#[cfg(test)]" line := by
  rw [Bool.not_eq_true', ← Bool.not_eq_true, isTestMarker_iff]

theorem isComment_iff (line : List Char) : isComment line = true ↔ Opens "//" line :=
  beginsWith_iff rfl (by decide) line

section splitLine

variable {cs line behind rest : List Char} {after : Option (List Char)}

theorem Ends.cons {c : Char} (h : Ends line behind after)
    (hreturn : ∀ tail, c = '\r' → line ++ behind = '\n' :: tail → False) :
    Ends (c :: line) behind after := by
  cases h with
  | newline rest hline =>
    refine .newline rest ?_
    cases line with
    | nil =>
      intro hlast
      exact hreturn rest (Option.some.inj hlast) rfl
    | cons d line =>
      rw [List.getLast?_cons_cons]
      exact hline
  | both rest => exact .both rest
  | text => exact .text

theorem Ends.of_cons {c : Char} (h : Ends (c :: line) behind after) : Ends line behind after := by
  cases h with
  | newline rest hline =>
    refine .newline rest fun hlast => hline ?_
    rw [List.getLast?_cons, hlast]
    rfl
  | both rest => exact .both rest
  | text => exact .text

/-- No line goes on behind a carriage return that a newline follows. -/
theorem Ends.not_return {c : Char} (hsingle : '\n' ∉ line) (h : Ends (c :: line) behind after)
    (tail : List Char) (hc : c = '\r') : line ++ behind ≠ '\n' :: tail := by
  intro htail
  cases line with
  | cons d line =>
    cases htail
    exact hsingle List.mem_cons_self
  | nil =>
    cases h with
    | newline _ hline => exact hline (congrArg some hc)
    | both => cases htail
    | text => cases htail

theorem splitLine_cons {c : Char} (hc : c = '\n' → False)
    (hreturn : ∀ tail, c = '\r' → cs = '\n' :: tail → False) :
    splitLine (c :: cs) = (c :: (splitLine cs).1, (splitLine cs).2) := by
  rw [splitLine]
  · exact hc
  · exact hreturn

/-- A line is split off with what follows it. -/
theorem splitLine_append_eq (hsingle : '\n' ∉ line) (hends : Ends line behind after) :
    splitLine (line ++ behind) = (line, after) := by
  induction line with
  | nil => cases hends <;> rfl
  | cons c line ih =>
    rw [List.mem_cons, not_or] at hsingle
    rw [List.cons_append, splitLine_cons (fun h => hsingle.1 h.symm)
      (hends.not_return hsingle.2), ih hsingle.2 hends.of_cons]

/-- The first line of a text has no newline in it, and its end stands behind it. -/
theorem exists_of_splitLine (h : splitLine cs = (line, after)) :
    ∃ behind, cs = line ++ behind ∧ '\n' ∉ line ∧ Ends line behind after := by
  induction cs using splitLine.induct generalizing line with
  | case1 =>
    cases h
    exact ⟨[], rfl, List.not_mem_nil, .text⟩
  | case2 rest =>
    cases h
    exact ⟨'\n' :: rest, rfl, List.not_mem_nil, .newline rest (Option.some_ne_none _).symm⟩
  | case3 rest =>
    cases h
    exact ⟨'\r' :: '\n' :: rest, rfl, List.not_mem_nil, .both rest⟩
  | case4 c cs hc hreturn ih =>
    cases hmore : splitLine cs with
    | mk start after =>
      rw [splitLine_cons hc hreturn, hmore] at h
      cases h
      obtain ⟨behind, rfl, hsingle, hends⟩ := ih hmore
      refine ⟨behind, rfl, ?_, hends.cons hreturn⟩
      rw [List.mem_cons, not_or]
      exact ⟨fun h => hc h.symm, hsingle⟩

/-- The end of a line that has one. -/
theorem Ends.exists_ending (h : Ends line behind (some rest)) :
    ∃ ending, behind = ending ++ rest ∧ ending.getLast? = some '\n' ∧ ending.count '\n' = 1 := by
  cases h with
  | newline => exact ⟨['\n'], rfl, rfl, rfl⟩
  | both => exact ⟨['\r', '\n'], rfl, rfl, rfl⟩

/-- Text behind a newline does not change how the line before it ends. -/
theorem Ends.append (h : Ends line behind (some rest)) (more : List Char) :
    Ends line (behind ++ more) (some (rest ++ more)) := by
  cases h with
  | newline _ hline => exact .newline (rest ++ more) hline
  | both => exact .both (rest ++ more)

/-- Text behind the end of the first line does not change the line. -/
theorem splitLine_append (h : splitLine cs = (line, some rest)) (more : List Char) :
    splitLine (cs ++ more) = (line, some (rest ++ more)) := by
  obtain ⟨behind, rfl, hsingle, hends⟩ := exists_of_splitLine h
  rw [List.append_assoc]
  exact splitLine_append_eq hsingle (hends.append more)

theorem not_mem_of_splitLine (h : splitLine cs = (line, none)) : '\n' ∉ cs := by
  obtain ⟨behind, rfl, hsingle, hends⟩ := exists_of_splitLine h
  cases hends
  rwa [List.append_nil]

theorem Begins.mem (h : Begins cs) (hne : cs ≠ []) : '\n' ∈ cs :=
  List.mem_of_getLast? (h.resolve_left hne)

/-- Behind the end of the first line there are lines with their ends again. -/
theorem Begins.of_splitLine (hbegins : Begins cs) (h : splitLine cs = (line, some rest)) :
    Begins rest := by
  obtain ⟨behind, rfl, -, hends⟩ := exists_of_splitLine h
  obtain ⟨ending, rfl, -, -⟩ := hends.exists_ending
  cases rest with
  | nil => exact .inl rfl
  | cons c rest =>
    rw [← List.append_assoc] at hbegins
    have hne : line ++ ending ++ c :: rest ≠ [] :=
      List.append_ne_nil_of_right_ne_nil _ (List.cons_ne_nil c rest)
    have hlast := hbegins.resolve_left hne
    rw [List.getLast?_append, List.getLast?_cons, Option.some_or] at hlast
    rw [Begins, List.getLast?_cons]
    exact .inr hlast

theorem Begins.append {ending before : List Char} (h : Begins before)
    (hending : ending.getLast? = some '\n') (line : List Char) :
    Begins (line ++ ending ++ before) := by
  right
  rw [List.getLast?_append]
  rcases h with rfl | hlast
  · rw [List.getLast?_append, hending]
    rfl
  · rw [hlast, Option.some_or]

/-- Behind a line the next one is counted. -/
theorem count_append {ending : List Char} (hsingle : '\n' ∉ line)
    (hending : ending.count '\n' = 1) (before : List Char) :
    (line ++ ending ++ before).count '\n' = before.count '\n' + 1 := by
  rw [List.count_append, List.count_append, List.count_eq_zero.mpr hsingle, hending]
  omega

/-- What stands in front of a line that is not the first begins with the first one. -/
theorem Begins.split (h : splitLine cs = (line, after)) {before : List Char}
    (hcs : cs = before ++ behind) (hbegins : Begins before) (hne : before ≠ []) :
    ∃ between, after = some (between ++ behind) ∧ Begins between ∧
      before.count '\n' = between.count '\n' + 1 := by
  cases hsplit : splitLine before with
  | mk start following =>
    cases following with
    | none => exact absurd (hbegins.mem hne) (not_mem_of_splitLine hsplit)
    | some between =>
      have hafter := splitLine_append hsplit behind
      rw [← hcs, h] at hafter
      cases hafter
      refine ⟨between, rfl, hbegins.of_splitLine hsplit, ?_⟩
      obtain ⟨behind, rfl, hsingle, hends⟩ := exists_of_splitLine hsplit
      obtain ⟨ending, rfl, -, hcount⟩ := hends.exists_ending
      rw [← List.append_assoc]
      exact count_append hsingle hcount between

/-- The lines of a text are the first one, and those of the text behind it with the next numbers. -/
theorem isLine_iff (hne : cs ≠ []) (h : splitLine cs = (line, after)) (k : Nat) (l : List Char) :
    IsLine cs k l ↔
      k = 1 ∧ l = line ∨ ∃ j rest, k = j + 1 ∧ after = some rest ∧ IsLine rest j l := by
  obtain ⟨behind, hcs, hsingle, hends⟩ := exists_of_splitLine h
  constructor
  · intro hline
    cases hline with
    | @intro before _ _ _ split begins single ends left =>
      by_cases hbefore : before = []
      · subst hbefore
        rw [split, List.nil_append, splitLine_append_eq single ends] at h
        cases h
        exact .inl ⟨rfl, rfl⟩
      · obtain ⟨between, hrest, hbetween, hcount⟩ := begins.split h split hbefore
        exact .inr ⟨_, _, by rw [hcount], hrest, .intro rfl hbetween single ends left⟩
  · rintro (⟨rfl, rfl⟩ | ⟨j, rest, rfl, rfl, hline⟩)
    · exact .intro (hcs.trans (List.nil_append _).symm) (.inl rfl) hsingle hends (hcs ▸ hne)
    · obtain ⟨ending, rfl, hlast, hcount⟩ := hends.exists_ending
      cases hline with
      | @intro before _ _ _ split begins single ends left =>
        rw [split, ← List.append_assoc, ← List.append_assoc] at hcs
        rw [← count_append hsingle hcount before]
        exact .intro hcs (begins.append hlast line) single ends left

end splitLine

-- All lines of a text

theorem lines_nil : lines [] = [] := by
  rw [lines]
  rfl

/-- The lines of a text are its first line and those of what follows the end of it. -/
theorem lines_eq {cs : List Char} (hne : cs ≠ []) :
    lines cs = (splitLine cs).1 :: ((splitLine cs).2.map lines).getD [] := by
  rw [lines, if_neg (by rwa [List.isEmpty_iff])]
  split
  next hsplit =>
    rw [hsplit]
    rfl
  next hsplit =>
    rw [hsplit]
    rfl

theorem not_isLine_nil (k : Nat) (l : List Char) : ¬IsLine [] k l := by
  rintro ⟨split, -, -, -, left⟩
  exact left (List.append_eq_nil_iff.mp split.symm).2

theorem IsLine.pos {text l : List Char} {k : Nat} (h : IsLine text k l) : 1 ≤ k := by
  cases h
  exact Nat.succ_pos _

/-- The lines that a text is cut into are its lines. -/
theorem getElem?_lines_iff (cs : List Char) (k : Nat) (l : List Char) :
    (lines cs)[k]? = some l ↔ IsLine cs (k + 1) l := by
  induction cs using lines.induct generalizing k with
  | case1 cs hempty =>
    rw [List.isEmpty_iff] at hempty
    subst hempty
    rw [lines_nil, List.getElem?_nil]
    exact ⟨nofun, fun h => absurd h (not_isLine_nil _ l)⟩
  | case2 cs hne line hsplit =>
    rw [List.isEmpty_iff] at hne
    rw [lines_eq hne, isLine_iff hne hsplit, hsplit]
    cases k with
    | zero => simp [eq_comm]
    | succ k => simp
  | case3 cs hne line rest hsplit ih =>
    rw [List.isEmpty_iff] at hne
    rw [lines_eq hne, isLine_iff hne hsplit, hsplit, Option.map_some, Option.getD_some]
    cases k with
    | zero =>
      rw [List.getElem?_cons_zero]
      constructor
      · intro h
        exact .inl ⟨rfl, (Option.some.inj h).symm⟩
      · rintro (⟨-, rfl⟩ | ⟨j, following, hj, -, hline⟩)
        · rfl
        · have := hline.pos
          omega
    | succ k =>
      rw [List.getElem?_cons_succ, ih]
      constructor
      · exact fun h => .inr ⟨k + 1, rest, rfl, rfl, h⟩
      · rintro (⟨hk, -⟩ | ⟨j, following, hj, hfollowing, hline⟩)
        · omega
        · cases hj
          cases hfollowing
          exact hline

/-- A line is found with its number exactly if it stands in the text as that line. -/
theorem mem_numbered_iff (cs : List Char) (k : Nat) (l : List Char) :
    (l, k) ∈ (lines cs).zipIdx 1 ↔ IsLine cs k l := by
  rw [List.mk_mem_zipIdx_iff_le_and_getElem?_sub, getElem?_lines_iff]
  constructor
  · rintro ⟨hpos, hline⟩
    rwa [Nat.sub_add_cancel hpos] at hline
  · intro hline
    refine ⟨hline.pos, ?_⟩
    rwa [Nat.sub_add_cancel hline.pos]

theorem IsLine.mem_lines {cs l : List Char} {k : Nat} (h : IsLine cs k l) : l ∈ lines cs :=
  List.fst_mem_of_mem_zipIdx ((mem_numbered_iff cs k l).mpr h)

/-- Lines behind a newline come after those before it. -/
theorem lines_append {cs : List Char} (hbegins : Begins cs) (more : List Char) :
    lines (cs ++ more) = lines cs ++ lines more := by
  induction cs using lines.induct with
  | case1 cs hempty =>
    rw [List.isEmpty_iff] at hempty
    subst hempty
    rw [List.nil_append, lines_nil, List.nil_append]
  | case2 cs hne line hsplit =>
    rw [List.isEmpty_iff] at hne
    exact absurd (hbegins.mem hne) (not_mem_of_splitLine hsplit)
  | case3 cs hne line rest hsplit ih =>
    rw [List.isEmpty_iff] at hne
    rw [lines_eq hne, lines_eq (List.append_ne_nil_of_left_ne_nil hne more), hsplit,
      splitLine_append hsplit more]
    exact congrArg (line :: ·) (ih (hbegins.of_splitLine hsplit))

-- The lines that are kept

/-- Where numbers increase, a test is passed up to a member if it is passed at every number up to
its own. -/
theorem mem_takeWhile_iff {α : Type} {test : α × Nat → Bool} {xs : List (α × Nat)}
    (hxs : xs.Pairwise fun x y => x.2 < y.2) (x : α × Nat) :
    x ∈ xs.takeWhile test ↔ x ∈ xs ∧ ∀ y ∈ xs, y.2 ≤ x.2 → test y = true := by
  induction xs with
  | nil => simp
  | cons y xs ih =>
    rw [List.pairwise_cons] at hxs
    obtain ⟨hfirst, hxs⟩ := hxs
    rw [List.takeWhile_cons]
    split
    next hy =>
      rw [List.mem_cons, List.mem_cons, ih hxs, List.forall_mem_cons]
      constructor
      · rintro (rfl | ⟨hx, htest⟩)
        · refine ⟨.inl rfl, fun _ => hy, fun z hz hle => ?_⟩
          exact absurd (hfirst z hz) (Nat.not_lt.mpr hle)
        · exact ⟨.inr hx, fun _ => hy, htest⟩
      · rintro ⟨rfl | hx, -, htest⟩
        · exact .inl rfl
        · exact .inr ⟨hx, htest⟩
    -- Every number behind is greater, so the failure counts for all.
    next hy =>
      rw [List.mem_cons, List.forall_mem_cons]
      constructor
      · intro hx
        cases hx
      · rintro ⟨rfl | hx, htest, -⟩
        · exact absurd (htest (Nat.le_refl _)) hy
        · exact absurd (htest (Nat.le_of_lt (hfirst x hx))) hy

theorem pairwise_zipIdx {α : Type} (xs : List α) (n : Nat) :
    (xs.zipIdx n).Pairwise fun x y => x.2 < y.2 := by
  have hnumbers : ((xs.zipIdx n).map Prod.snd).Pairwise (· < ·) := by
    rw [List.zipIdx_map_snd]
    exact List.pairwise_lt_range'
  exact List.pairwise_map.mp hnumbers

/-- The lines before the test module that are no comments, by where they stand. -/
theorem mem_kept_iff (cs : List Char) (k : Nat) (l : List Char) :
    (l, k) ∈ (((lines cs).zipIdx 1).takeWhile fun x => !isTestMarker x.1).filter
        (fun x => !isComment x.1) ↔
      IsLine cs k l ∧ (∀ j m, j ≤ k → IsLine cs j m → ¬Opens "#[cfg(test)]" m) ∧
        ¬Opens "//" l := by
  rw [List.mem_filter, mem_takeWhile_iff (pairwise_zipIdx _ 1), mem_numbered_iff, and_assoc,
    Bool.not_eq_true', ← Bool.not_eq_true, isComment_iff]
  refine and_congr_right fun _ => and_congr_left fun _ => ?_
  constructor
  · intro htest j m hj hm
    exact (not_isTestMarker_iff m).mp (htest (m, j) ((mem_numbered_iff cs j m).mpr hm) hj)
  · rintro hnone ⟨m, j⟩ hm hj
    exact (not_isTestMarker_iff m).mpr (hnone j m hj ((mem_numbered_iff cs j m).mp hm))

/-- A line ends up in the program exactly if it is none of the test module and no comment. -/
theorem mem_production_iff (text : String) (k : Nat) (l : String) :
    (k, l) ∈ production text ↔
      IsLine text.toList k l.toList ∧
        (∀ j m, j ≤ k → IsLine text.toList j m → ¬Opens "#[cfg(test)]" m) ∧
        ¬Opens "//" l.toList := by
  rw [production, List.mem_map, ← mem_kept_iff]
  constructor
  · rintro ⟨⟨m, j⟩, hmem, heq⟩
    cases heq
    rwa [String.toList_ofList]
  · intro hmem
    exact ⟨(l.toList, k), hmem, by rw [String.ofList_toList]⟩

theorem pairwise_production (text : String) :
    (production text).Pairwise fun x y => x.1 < y.1 := by
  rw [production, List.pairwise_map]
  exact ((pairwise_zipIdx _ 1).sublist (List.takeWhile_sublist _)).filter _

/-- The numbers of lines that follow others go on where those of the others end. -/
theorem production_append (text more : String) (hbegins : Begins text.toList)
    (hnone : ∀ k l, IsLine text.toList k l → ¬Opens "#[cfg(test)]" l) :
    production (text ++ more) = production text ++
      (production more).map fun x => (x.1 + (lines text.toList).length, x.2) := by
  have hkept : ∀ x ∈ (lines text.toList).zipIdx 1, (!isTestMarker x.1) = true := by
    rintro ⟨l, k⟩ hmem
    exact (not_isTestMarker_iff l).mpr (hnone k l ((mem_numbered_iff text.toList k l).mp hmem))
  rw [production, production, production, String.toList_append, lines_append hbegins,
    List.zipIdx_append, Nat.add_comm, ← List.map_snd_add_zipIdx_eq_zipIdx]
  -- Neither test looks at the numbers, so adding to them may be left to the end.
  rw [List.takeWhile_append_of_pos hkept, List.takeWhile_eq_self_iff.mpr hkept, List.filter_append,
    List.map_append, List.takeWhile_map, List.filter_map, List.map_map, List.map_map]
  rfl

/-- A line of a text, whatever the text, ends up in the program with its number if and only if
neither it nor a line before it opens the test module, and it is no comment. The numbers increase.
A text that ends in a newline and does not open the test module may have another one behind it:
the lines of both end up in the program that do by themselves, and those of the other are counted on
from the last of the first. -/
theorem production_selects (text : String) :
    (∀ k l, (lines text.toList)[k]? = some l ↔ IsLine text.toList (k + 1) l) ∧
      (∀ k l, (k, l) ∈ production text ↔
        IsLine text.toList k l.toList ∧
          (∀ j m, j ≤ k → IsLine text.toList j m → ¬Opens "#[cfg(test)]" m) ∧
          ¬Opens "//" l.toList) ∧
      (production text).Pairwise (fun x y => x.1 < y.1) ∧
      ∀ more : String, text.toList.getLast? = some '\n' →
        (∀ k l, IsLine text.toList k l → ¬Opens "#[cfg(test)]" l) →
        production (text ++ more) = production text ++
          (production more).map fun x => (x.1 + (lines text.toList).length, x.2) :=
  ⟨getElem?_lines_iff text.toList, mem_production_iff text, pairwise_production text,
    fun more hlast hnone => production_append text more (.inr hlast) hnone⟩

/-- A comment that names the test module does not open it, and is counted. A line that opens it
behind a blank does. -/
theorem production_selects_comment :
    let text := "a\r\n\n // #[cfg(test)]\n"
    let more := "b\r\n\u00a0#[cfg(test)]\nc"
    text.toList.getLast? = some '\n' ∧
      (∀ k l, IsLine text.toList k l → ¬Opens "#[cfg(test)]" l) ∧
      production (text ++ more) = [(1, "a"), (2, ""), (4, "b")] := by
  intro text more
  have hlast : text.toList.getLast? = some '\n' := by decide
  have hlines : lines text.toList = [['a'], [], " // #[cfg(test)]".toList] := by decide +kernel
  have hnone : ∀ k l, IsLine text.toList k l → ¬Opens "#[cfg(test)]" l := by
    intro k l hline
    have hno : ∀ m ∈ lines text.toList, (!isTestMarker m) = true := by
      rw [hlines]
      decide
    exact (not_isTestMarker_iff l).mp (hno l hline.mem_lines)
  have htext : production text = [(1, "a"), (2, "")] := by decide +kernel
  have hmore : production more = [(1, "b")] := by decide +kernel
  refine ⟨hlast, hnone, ?_⟩
  rw [(production_selects text).2.2.2 more hlast hnone, htext, hmore, hlines]
  rfl

end LocalRecords.SourceLines
