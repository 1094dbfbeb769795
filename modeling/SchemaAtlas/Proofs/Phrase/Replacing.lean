import SchemaAtlas.Proofs.Phrase

namespace SchemaAtlas

/-!
Replacing one phrase by another text.

A phrase that reads in front of a certain text what it would read without it never reaches into that
text.  So what stands before such a place and what stands behind it can be treated one by one, and
characters that are neither in the text nor in the replacement do not appear.  And where every
reading takes up more than what is written for it, a text becomes shorter if the phrase stands in
it, so it stays as it is only if the phrase does not.
-/

namespace Phrase

variable {α β : Type}

/-! Phrases that go forward. -/

/-- What follows a reading is an end of the text. -/
def Advances (p : Phrase α) : Prop :=
  forall t reading, reading ∈ p t -> reading.2 <:+ t

theorem advances_give (a : α) : Advances (give a) := by
  intro t reading member
  obtain rfl := List.mem_singleton.mp member
  exact List.suffix_rfl

theorem Advances.bind {p : Phrase α} {q : α -> Phrase β} (first : Advances p)
    (second : forall a, Advances (q a)) : Advances (p >>= q) := by
  intro t reading member
  rcases List.mem_flatMap.mp member with ⟨middle, inFirst, inSecond⟩
  exact (second middle.1 middle.2 reading inSecond).trans (first t middle inFirst)

theorem Advances.either {p q : Phrase α} (first : Advances p) (second : Advances q) :
    Advances (either p q) := by
  intro t reading member
  rcases List.mem_append.mp member with inFirst | inSecond
  · exact first t reading inFirst
  · exact second t reading inSecond

theorem advances_charWhere (test : Char -> Bool) : Advances (charWhere test) := by
  intro t reading member
  cases t with
  | nil => cases member
  | cons c rest =>
      rw [charWhere] at member
      split at member
      · rw [List.mem_singleton.mp member]
        exact List.suffix_cons c rest
      · cases member

theorem advances_letters (word : Text) : Advances (letters word) := by
  induction word with
  | nil => exact advances_give ()
  | cons w word ih => exact (advances_charWhere _).bind fun _ => ih

theorem advances_blanks : Advances blanks := by
  intro t reading member
  rw [List.mem_singleton.mp member]
  exact List.dropWhile_suffix _

theorem advances_blanks1 : Advances blanks1 :=
  (advances_charWhere _).bind fun _ => advances_blanks

theorem advances_char (c : Char) : Advances (char c) :=
  (advances_charWhere _).bind fun _ => advances_give ()

theorem advances_keyword (word : Text) : Advances (keyword word) :=
  (advances_letters word).bind fun _ => advances_blanks1

theorem Advances.optional {p : Phrase Unit} (advances : Advances p) : Advances (optional p) :=
  advances.either (advances_give ())

theorem advances_wordEnd : Advances wordEnd := by
  intro t reading member
  cases t with
  | nil =>
      obtain rfl := List.mem_singleton.mp member
      exact List.suffix_rfl
  | cons c rest =>
      rw [wordEnd] at member
      split at member
      · cases member
      · obtain rfl := List.mem_singleton.mp member
        exact List.suffix_rfl

theorem advances_wordStart (before : Option Char) : Advances (wordStart before) := by
  intro t reading member
  rw [wordStart] at member
  split at member
  · cases member
  · obtain rfl := List.mem_singleton.mp member
    exact List.suffix_rfl

/-! Phrases that stop in front of a text. -/

/-- The phrase reads in front of a text what it would read without it. -/
def Halts (p : Phrase α) (s : Text) : Prop :=
  forall t, p (t ++ s) = (p t).map fun reading => (reading.1, reading.2 ++ s)

variable {s : Text}

theorem halts_give (a : α) : Halts (give a) s :=
  fun _ => rfl

theorem Halts.bind {p : Phrase α} {q : α -> Phrase β} (first : Halts p s)
    (second : forall a, Halts (q a) s) : Halts (p >>= q) s := by
  intro t
  rw [bind_apply, bind_apply, first t, List.flatMap_map, List.map_flatMap]
  congr 1
  funext reading
  exact second reading.1 reading.2

theorem Halts.either {p q : Phrase α} (first : Halts p s) (second : Halts q s) :
    Halts (either p q) s := by
  intro t
  simp only [Phrase.either, first t, second t, List.map_append]

theorem halts_charWhere {test : Char -> Bool}
    (fails : forall c, s.head? = some c -> test c = false) : Halts (charWhere test) s := by
  intro t
  cases t with
  | nil =>
      cases s with
      | nil => rfl
      | cons c rest =>
          rw [List.nil_append, charWhere, fails c rfl]
          rfl
  | cons c rest =>
      rw [List.cons_append, charWhere, charWhere]
      cases test c with
      | true => rfl
      | false => rfl

theorem halts_letters {word : Text}
    (apart : forall c, s.head? = some c -> (word.all fun w => !Text.sameLetter w c) = true) :
    Halts (letters word) s := by
  induction word with
  | nil => exact halts_give ()
  | cons w word ih =>
      have parts : forall c, s.head? = some c ->
          Text.sameLetter w c = false ∧ (word.all fun w => !Text.sameLetter w c) = true := by
        intro c found
        simpa using apart c found
      exact (halts_charWhere fun c found => (parts c found).1).bind fun _ =>
        ih fun c found => (parts c found).2

theorem halts_char {d : Char} (apart : forall c, s.head? = some c -> c ≠ d) : Halts (char d) s :=
  (halts_charWhere fun c found => beq_eq_false_iff_ne.mpr (apart c found)).bind fun _ =>
    halts_give ()

theorem Halts.optional {p : Phrase Unit} (halts : Halts p s) : Halts (optional p) s :=
  halts.either (halts_give ())

/-- Blanks end in front of a text that begins with none. -/
theorem trimStart_append (bare : forall c, s.head? = some c -> Text.isBlank c = false) (t : Text) :
    Text.trimStart (t ++ s) = Text.trimStart t ++ s := by
  rw [Text.trimStart, Text.trimStart, List.dropWhile_append]
  cases rest : t.dropWhile Text.isBlank with
  | nil => simp [Text.dropWhile_of_head bare]
  | cons c more => simp

theorem halts_blanks (bare : forall c, s.head? = some c -> Text.isBlank c = false) :
    Halts blanks s := by
  intro t
  simp only [blanks, trimStart_append bare, List.map_cons, List.map_nil]

theorem halts_blanks1 (bare : forall c, s.head? = some c -> Text.isBlank c = false) :
    Halts blanks1 s :=
  (halts_charWhere bare).bind fun _ => halts_blanks bare

theorem halts_wordEnd (outside : forall c, s.head? = some c -> Text.isWordChar c = false) :
    Halts wordEnd s := by
  intro t
  cases t with
  | nil =>
      cases s with
      | nil => rfl
      | cons c rest => simp [wordEnd, outside c rfl]
  | cons c rest =>
      simp only [List.cons_append, wordEnd]
      cases Text.isWordChar c with
      | true => rfl
      | false => rfl

theorem halts_wordStart (before : Option Char) : Halts (wordStart before) s := by
  intro t
  simp only [wordStart]
  split
  · rfl
  · rfl

/-- The readings in front of a text leave that text and an end of what stands before it. -/
theorem Halts.exists_end {p : Phrase α} (halts : Halts p s) (advances : Advances p) {t : Text}
    {reading : α × Text} (member : reading ∈ p (t ++ s)) :
    exists more, more <:+ t ∧ reading.2 = more ++ s := by
  rw [halts t] at member
  rcases List.mem_map.mp member with ⟨inner, inside, rfl⟩
  exact ⟨inner.2, advances t inner inside, rfl⟩

/-- A phrase does not stand where its second part stands behind no reading of the first. -/
theorem bind_eq_nil_of_halts {p : Phrase Unit} {q : Phrase β} (halts : Halts p s)
    (advances : Advances p) {t : Text} (later : forall more, more <:+ t -> q (more ++ s) = []) :
    (p >>= fun _ => q) (t ++ s) = [] := by
  rw [bind_apply, List.flatMap_eq_nil_iff]
  intro reading member
  rcases halts.exists_end advances member with ⟨more, ending, behind⟩
  rw [behind]
  exact later more ending

/-! Phrases that take up a part of the text. -/

/-- Every reading takes up so many characters at least. -/
def Consumes (n : Nat) (p : Phrase α) : Prop :=
  forall t reading, reading ∈ p t -> reading.2.length + n ≤ t.length

theorem Advances.consumes {p : Phrase α} (advances : Advances p) : Consumes 0 p :=
  fun t reading member => (advances t reading member).length_le

theorem Consumes.mono {p : Phrase α} {m n : Nat} (consumes : Consumes n p) (fewer : m ≤ n) :
    Consumes m p := by
  intro t reading member
  have size := consumes t reading member
  omega

theorem Consumes.bind {m n : Nat} {p : Phrase α} {q : α -> Phrase β} (first : Consumes m p)
    (second : forall a, Consumes n (q a)) : Consumes (m + n) (p >>= q) := by
  intro t reading member
  rcases List.mem_flatMap.mp member with ⟨middle, inFirst, inSecond⟩
  have sizeFirst := first t middle inFirst
  have sizeSecond := second middle.1 middle.2 reading inSecond
  omega

theorem consumes_charWhere (test : Char -> Bool) : Consumes 1 (charWhere test) := by
  intro t reading member
  cases t with
  | nil => cases member
  | cons c rest =>
      rw [charWhere] at member
      split at member
      · rw [List.mem_singleton.mp member]
        exact Nat.le_refl _
      · cases member

theorem consumes_letters (word : Text) : Consumes word.length (letters word) := by
  induction word with
  | nil => exact (advances_give ()).consumes
  | cons w word ih =>
      rw [List.length_cons, Nat.add_comm]
      exact (consumes_charWhere _).bind fun _ => ih

theorem consumes_blanks1 : Consumes 1 blanks1 :=
  (consumes_charWhere _).bind fun _ => advances_blanks.consumes

theorem consumes_keyword (word : Text) : Consumes (word.length + 1) (keyword word) :=
  (consumes_letters word).bind fun _ => consumes_blanks1

/-! Replacing. -/

section Replacing

variable {p : Option Char -> Phrase α} {replacement : Text}

theorem replaceAfter_cons (before : Option Char) (c : Char) (rest : Text) :
    replaceAfter p replacement before (c :: rest) =
      match (p before (c :: rest)).head? with
      | some reading =>
        if reading.2.length < (c :: rest).length then
          replacement ++ replaceAfter p replacement
            ((c :: rest)[(c :: rest).length - reading.2.length - 1]?) reading.2
        else c :: replaceAfter p replacement (some c) rest
      | none => c :: replaceAfter p replacement (some c) rest := by
  rw [replaceAfter]
  rfl

theorem replaceAfter_of_eq_nil {before : Option Char} {c : Char} {rest : Text}
    (absent : p before (c :: rest) = []) :
    replaceAfter p replacement before (c :: rest) = c :: replaceAfter p replacement
      (some c) rest := by
  rw [replaceAfter_cons, absent]
  rfl

theorem replaceAfter_congr {first second : Option Char} (same : p first = p second) (t : Text) :
    replaceAfter p replacement first t = replaceAfter p replacement second t := by
  cases t with
  | nil => rw [replaceAfter, replaceAfter]
  | cons c rest => rw [replaceAfter_cons, replaceAfter_cons, same]

/-- Where nothing reaches across a place, what stands before it and what stands behind
are treated one by one. -/
theorem replaceAfter_append {q : Char} {behind : Text}
    (halts : forall before, Halts (p before) (q :: behind))
    (absent : forall before, p before (q :: behind) = []) (before : Option Char) (t : Text) :
    replaceAfter p replacement before (t ++ q :: behind) =
      replaceAfter p replacement before t ++ q :: replaceAfter p replacement (some q) behind := by
  have readings : forall before c rest, (p before (c :: (rest ++ q :: behind))).head? =
      (p before (c :: rest)).head?.map fun reading => (reading.1, reading.2 ++ q :: behind) := by
    intro before c rest
    have all := halts before (c :: rest)
    rw [List.cons_append] at all
    rw [all, List.head?_map]
  have sizes : forall c rest, (c :: (rest ++ q :: behind)).length =
      (c :: rest).length + (q :: behind).length := by
    intro c rest
    simp only [List.length_cons, List.length_append]
    omega
  fun_induction replaceAfter p replacement before t with
  | case1 before =>
      rw [List.nil_append, replaceAfter_of_eq_nil (absent before)]
      rfl
  | case2 before c rest reading found shorter ih =>
      have shorterToo : (reading.2 ++ q :: behind).length <
          (c :: (rest ++ q :: behind)).length := by
        rw [sizes, List.length_append]
        omega
      have place : (c :: (rest ++ q :: behind))[(c :: (rest ++ q :: behind)).length -
          (reading.2 ++ q :: behind).length - 1]? =
            (c :: rest)[(c :: rest).length - reading.2.length - 1]? := by
        rw [sizes, List.length_append, Nat.add_sub_add_right, ← List.cons_append]
        exact List.getElem?_append_left (by omega)
      rw [List.cons_append, replaceAfter_cons, readings, found]
      simp only [Option.map_some, if_pos shorterToo, place, ih, List.append_assoc]
  | case3 before c rest reading found longer ih =>
      have longerToo : ¬ (reading.2 ++ q :: behind).length <
          (c :: (rest ++ q :: behind)).length := by
        rw [sizes, List.length_append]
        omega
      rw [List.cons_append, replaceAfter_cons, readings, found]
      simp only [Option.map_some, if_neg longerToo, ih, List.cons_append]
  | case4 before c rest nothing ih =>
      rw [List.cons_append, replaceAfter_cons, readings, nothing]
      simp only [Option.map_none, ih, List.cons_append]

/-- Only characters of the text and of the replacement are written. -/
theorem mem_replaceAfter (advances : forall before, Advances (p before)) {before : Option Char}
    {t : Text} {c : Char} (member : c ∈ replaceAfter p replacement before t) :
    c ∈ replacement ∨ c ∈ t := by
  fun_induction replaceAfter p replacement before t with
  | case1 => cases member
  | case2 before d rest reading found shorter ih =>
      have ending := advances before (d :: rest) reading (List.mem_of_head? found)
      rcases List.mem_append.mp member with inReplacement | later
      · exact Or.inl inReplacement
      · exact (ih later).imp_right fun inside => ending.subset inside
  | case3 _ d rest _ _ _ ih | case4 _ d rest _ ih =>
      rcases List.mem_cons.mp member with rfl | later
      · exact Or.inr List.mem_cons_self
      · exact (ih later).imp_right (List.mem_cons_of_mem d)

/-- A text in which the phrase stands nowhere stays as it is. -/
theorem replaceAfter_of_not_occursAfter {before : Option Char} {t : Text}
    (nowhere : occursAfter p before t = false) : replaceAfter p replacement before t = t := by
  induction t generalizing before with
  | nil => rw [replaceAfter]
  | cons c rest ih =>
      rw [occursAfter, Bool.or_eq_false_iff] at nowhere
      have absent : p before (c :: rest) = [] := by simpa [holds] using nowhere.1
      rw [replaceAfter_of_eq_nil absent, ih nowhere.2]

section Shortening

variable (shortens : forall before, Consumes (replacement.length + 1) (p before))

include shortens

theorem length_replaceAfter_le (before : Option Char) (t : Text) :
    (replaceAfter p replacement before t).length ≤ t.length := by
  fun_induction replaceAfter p replacement before t with
  | case1 => exact Nat.le_refl 0
  | case2 before c rest reading found shorter ih =>
      have size := shortens before (c :: rest) reading (List.mem_of_head? found)
      rw [List.length_append]
      omega
  | case3 _ _ _ _ _ _ ih | case4 _ _ _ _ ih => exact Nat.succ_le_succ ih

/-- A text in which the phrase stands somewhere becomes shorter. -/
theorem length_replaceAfter_lt {before : Option Char} {t : Text}
    (somewhere : occursAfter p before t = true) :
    (replaceAfter p replacement before t).length < t.length := by
  induction t generalizing before with
  | nil =>
      cases here : p before [] with
      | nil => simp [occursAfter, holds, here] at somewhere
      | cons reading others =>
          have size := shortens before [] reading (here ▸ List.mem_cons_self)
          exact absurd size (Nat.not_succ_le_zero _)
  | cons c rest ih =>
      rw [replaceAfter_cons]
      cases here : p before (c :: rest) with
      | nil =>
          have later : occursAfter p (some c) rest = true := by
            simpa [occursAfter, holds, here] using somewhere
          exact Nat.succ_lt_succ (ih later)
      | cons reading others =>
          have size := shortens before (c :: rest) reading (here ▸ List.mem_cons_self)
          have shorter : reading.2.length < (c :: rest).length := by omega
          have behind := length_replaceAfter_le shortens
            ((c :: rest)[(c :: rest).length - reading.2.length - 1]?) reading.2
          simp only [List.head?_cons, if_pos shorter, List.length_append]
          omega

end Shortening

/-- Phrases that are replaced one after the other leave a text as it is where
none of them stands. -/
theorem foldl_replaceAll_eq_self_iff {entries : List ((Option Char -> Phrase α) × Text)}
    (shortens : forall entry, entry ∈ entries ->
      forall before, Consumes (entry.2.length + 1) (entry.1 before)) (t : Text) :
    entries.foldl (fun t entry => replaceAll entry.1 entry.2 t) t = t ↔
      forall entry, entry ∈ entries -> occursAfter entry.1 none t = false := by
  induction entries with
  | nil => simp
  | cons entry entries ih =>
      have here := shortens entry List.mem_cons_self
      have later := fun other member => shortens other (List.mem_cons_of_mem entry member)
      have notLonger : forall u : Text,
          (entries.foldl (fun t entry => replaceAll entry.1 entry.2 t) u).length ≤ u.length := by
        intro u
        refine List.foldlRecOn (motive := fun s : Text => s.length ≤ u.length) entries _
          (Nat.le_refl _) ?_
        intro s bounded other member
        exact Nat.le_trans (length_replaceAfter_le (later other member) none s) bounded
      rw [List.foldl_cons, List.forall_mem_cons, ← ih later]
      constructor
      · intro same
        have nowhere : occursAfter entry.1 none t = false := by
          rw [Bool.eq_false_iff]
          intro somewhere
          have shorter := length_replaceAfter_lt here somewhere
          have bounded := notLonger (replaceAll entry.1 entry.2 t)
          rw [same] at bounded
          exact Nat.lt_irrefl _ (Nat.lt_of_le_of_lt bounded shorter)
        have kept : replaceAll entry.1 entry.2 t = t := replaceAfter_of_not_occursAfter nowhere
        rw [kept] at same
        exact ⟨nowhere, same⟩
      · rintro ⟨nowhere, same⟩
        have kept : replaceAll entry.1 entry.2 t = t := replaceAfter_of_not_occursAfter nowhere
        rw [kept, same]

end Replacing

end Phrase
end SchemaAtlas
