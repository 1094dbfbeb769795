import SchemaAtlas.Proofs.Text
import SchemaAtlas.Statement.Split

namespace SchemaAtlas
namespace Statement

/-!
Statements that stand on lines of their own.

A line that is no comment and no directive and ends with the delimiter opens a statement and closes
it at once.  So a script of such lines is split into exactly their texts, in order.
-/

/-- A text that makes one line with the delimiter behind it, and that the line
means as a statement. -/
structure StandsAlone (delimiter body : Text) : Prop where
  unbroken : (body ++ delimiter).Unbroken
  unpadded : (body ++ delimiter).Unpadded
  tight : body.Unpadded
  body_ne_nil : body ≠ []
  delimiter_ne_nil : delimiter ≠ []
  not_idle : isIdleLine (body ++ delimiter) = false
  no_directive : directive? (body ++ delimiter) = none

/-- Line breaks are unified on both sides of a place that stands inside of no line break. -/
theorem unifyBreaks_append_cons {t : Text} {c : Char} (apart : c = '\n' -> t.getLast? ≠ some '\r')
    (rest : Text) : unifyBreaks (t ++ c :: rest) = unifyBreaks t ++ unifyBreaks (c :: rest) := by
  fun_induction unifyBreaks t with
  | case1 => rfl
  | case2 more ih =>
      have later := ih fun feed found => apart feed (by simp [List.getLast?_cons, found])
      rw [List.cons_append, List.cons_append, unifyBreaks, later, List.cons_append]
  | case3 d more other ih =>
      have later := ih fun feed found => apart feed (by simp [List.getLast?_cons, found])
      -- a carriage return takes a line feed with it, and none follows here, not even from the rest
      have single : forall behind, d = '\r' -> more ++ c :: rest = '\n' :: behind -> False := by
        intro behind isReturn following
        cases more with
        | nil => exact apart (List.cons.inj following).1 (by rw [isReturn]; rfl)
        | cons e more => exact other more isReturn (by rw [(List.cons.inj following).1])
      rw [List.cons_append, unifyBreaks.eq_3 _ _ single, later, List.cons_append]

theorem unifyBreaks_of_not_mem {t : Text} (absent : '\r' ∉ t) : unifyBreaks t = t := by
  fun_induction unifyBreaks t with
  | case1 => rfl
  | case2 more => simp at absent
  | case3 c more _ ih =>
      have parts : '\r' ≠ c ∧ '\r' ∉ more := by simpa only [List.mem_cons, not_or] using absent
      rw [beq_eq_false_iff_ne.mpr parts.1.symm, ih parts.2]
      rfl

/-- Breaks are looked for behind a text that has none. -/
theorem unifyBreaks_append {t : Text} (absent : '\r' ∉ t) (rest : Text) :
    unifyBreaks (t ++ rest) = t ++ unifyBreaks rest := by
  cases rest with
  | nil => rw [unifyBreaks, List.append_nil, unifyBreaks_of_not_mem absent]
  | cons c rest =>
      rw [unifyBreaks_append_cons (fun _ last => absent (List.mem_of_getLast? last)),
        unifyBreaks_of_not_mem absent]

/-- The lines of a script are the texts that were joined to it. -/
theorem trimmedLines_join {first : Text} {rest : List Text}
    (unbroken : forall line, line ∈ first :: rest -> line.Unbroken)
    (unpadded : forall line, line ∈ first :: rest -> line.Unpadded) :
    trimmedLines (Text.join ['\n'] (first :: rest)) = first :: rest := by
  have noReturn : '\r' ∉ Text.join ['\n'] (first :: rest) := by
    intro member
    rcases Text.mem_join member with inSeparator | ⟨line, listed, inside⟩
    · exact absurd inSeparator (by decide)
    · exact (unbroken line listed).1 inside
  have cut : Text.splitOn '\n' (Text.join ['\n'] (first :: rest)) = first :: rest.map ([] ++ ·) :=
    Text.splitOn_join (by simp) fun line listed => (unbroken line listed).2
  have same : (first :: rest).map Text.trim = first :: rest := by
    conv => rhs; rw [← List.map_id (first :: rest)]
    exact List.map_congr_left fun line listed => Text.trim_of_unpadded (unpadded line listed)
  have bare : rest.map ([] ++ ·) = rest := List.map_id rest
  rw [trimmedLines, unifyBreaks_of_not_mem noReturn, cut, bare, same]

namespace Progress

/-- The line is read as one of a statement: it is not left out here, and it is no directive. -/
structure Takes (p : Progress) (line : Text) : Prop where
  kept : (if p.gathered.isEmpty then isIdleLine line else isCommentLine line) = false
  plain : directive? line = none

/-- The line where the statement begins to which the next line belongs. -/
def beginning (p : Progress) : Nat :=
  if p.gathered.isEmpty then p.linesRead + 1 else p.firstLine

/-- A line behind which no delimiter stands joins the open statement. -/
theorem readLine_joins {p : Progress} {line : Text} (takes : p.Takes line)
    (unended : Text.endsWith (Text.trimEnd (Text.join ['\n'] (p.gathered ++ [line])))
      p.delimiter = false) :
    p.readLine line =
      { p with
        gathered := p.gathered ++ [line]
        firstLine := p.beginning
        linesRead := p.linesRead + 1 } := by
  simp only [readLine, takes.kept, Bool.false_eq_true, if_false, takes.plain, gather, openText,
    unended, beginning]

/-- A line behind which the delimiter stands ends the statement. -/
theorem readLine_ends {p : Progress} {line body : Text} (takes : p.Takes line)
    (whole : Text.trimEnd (Text.join ['\n'] (p.gathered ++ [line])) = body ++ p.delimiter)
    (bare : body.Unpadded) (filled : body ≠ []) (marked : p.delimiter ≠ []) :
    p.readLine line =
      { p with
        found := p.found ++ [⟨body, p.delimiter, p.found.length, p.beginning⟩]
        gathered := []
        firstLine := p.beginning
        linesRead := p.linesRead + 1 } := by
  have ends : Text.endsWith (body ++ p.delimiter) p.delimiter = true := by
    simp [Text.endsWith, List.isSuffixOf_iff_suffix]
  have front : (body ++ p.delimiter).take ((body ++ p.delimiter).length - p.delimiter.length) =
      body := by
    rw [List.length_append, Nat.add_sub_cancel, List.take_left]
  have someDelimiter : p.delimiter.isEmpty = false := List.isEmpty_eq_false_iff.mpr marked
  have someBody : body.isEmpty = false := List.isEmpty_eq_false_iff.mpr filled
  simp only [readLine, takes.kept, Bool.false_eq_true, if_false, takes.plain, gather, openText,
    whole, ends, if_true, someDelimiter, front, close, Text.trim_of_unpadded bare, someBody,
      beginning]

/-- Between statements, such a line adds one statement and leaves nothing open. -/
theorem readLine_standsAlone {p : Progress} {body : Text} (idle : p.gathered = [])
    (alone : StandsAlone p.delimiter body) :
    p.readLine (body ++ p.delimiter) =
      { p with
        found := p.found ++ [⟨body, p.delimiter, p.found.length, p.linesRead + 1⟩]
        firstLine := p.linesRead + 1
        linesRead := p.linesRead + 1 } := by
  have takes : p.Takes (body ++ p.delimiter) :=
    ⟨by simpa [idle] using alone.not_idle, alone.no_directive⟩
  have whole : Text.trimEnd (Text.join ['\n'] (p.gathered ++ [body ++ p.delimiter])) =
      body ++ p.delimiter := by
    rw [idle, List.nil_append, Text.join_singleton, Text.trimEnd_of_unpadded alone.unpadded]
  rw [readLine_ends takes whole alone.tight alone.body_ne_nil alone.delimiter_ne_nil]
  simp only [beginning, idle, List.isEmpty_nil, if_true]

/-- A script of such lines gives one statement for each of them. -/
theorem found_foldl_readLine (delimiter : Text) {bodies : List Text} {p : Progress}
    (idle : p.gathered = []) (active : p.delimiter = delimiter)
    (alone : forall body, body ∈ bodies -> StandsAlone delimiter body) :
    let last := (bodies.map (· ++ delimiter)).foldl readLine p
    last.gathered = [] ∧ last.found.map Statement.text = p.found.map Statement.text ++ bodies := by
  induction bodies generalizing p with
  | nil => exact ⟨idle, (List.append_nil _).symm⟩
  | cons body rest ih =>
      subst active
      have here := readLine_standsAlone idle (alone body (by simp))
      have later := ih (p := p.readLine (body ++ p.delimiter)) (by rw [here]; exact idle)
        (by rw [here])
        fun other listed => alone other (List.mem_cons_of_mem _ listed)
      rw [List.map_cons, List.foldl_cons]
      refine ⟨later.1, later.2.trans ?_⟩
      rw [here]
      simp only [List.map_append, List.map_cons, List.map_nil, List.append_assoc,
        List.singleton_append]

end Progress

/-- Splitting undoes writing statements line by line. -/
theorem text_split_join {delimiter : Text} {bodies : List Text}
    (alone : forall body, body ∈ bodies -> StandsAlone delimiter body) :
    (split delimiter (Text.join ['\n'] (bodies.map (· ++ delimiter)))).map Statement.text =
      bodies := by
  cases bodies with
  | nil => rfl
  | cons first rest =>
      have lineOf : forall line, line ∈ (first :: rest).map (· ++ delimiter) ->
          line.Unbroken ∧ line.Unpadded := by
        intro line listed
        rcases List.mem_map.mp listed with ⟨body, member, rfl⟩
        exact ⟨(alone body member).unbroken, (alone body member).unpadded⟩
      have lines : trimmedLines (Text.join ['\n'] ((first :: rest).map (· ++ delimiter))) =
          (first :: rest).map (· ++ delimiter) :=
        trimmedLines_join (fun line listed => (lineOf line listed).1) fun line listed =>
          (lineOf line listed).2
      obtain ⟨idle, found⟩ :=
        Progress.found_foldl_readLine delimiter (p := Progress.start delimiter) rfl rfl alone
      rw [split, readLines, lines]
      simp only [Progress.finish, idle, List.isEmpty_nil, if_true]
      exact found

end Statement
end SchemaAtlas
