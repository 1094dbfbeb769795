import SchemaAtlas.Proofs.Text
import SchemaAtlas.Text.Phrase

namespace SchemaAtlas
namespace Phrase

/-!
Preferred readings.

Only the first reading of a phrase counts in the end, so a form is followed part by part along the
preferred readings: where the first part prefers a reading and the second part has one behind it,
the sequence prefers the two together, however many other readings the first part has.
-/

variable {α β : Type}

/-- The preferred reading of a phrase at the beginning of a text: its value, and what follows. -/
def Prefers (p : Phrase α) (t : Text) (a : α) (rest : Text) : Prop :=
  (p t).head? = some (a, rest)

theorem prefers_give (a : α) (t : Text) : Prefers (give a) t a t :=
  rfl

theorem prefers_bind {p : Phrase α} {q : α -> Phrase β} {t middle rest : Text} {a : α} {b : β}
    (first : Prefers p t a middle) (second : Prefers (q a) middle b rest) :
    Prefers (p >>= q) t b rest := by
  obtain ⟨others, readings⟩ : ∃ others, p t = (a, middle) :: others :=
    List.head?_eq_some_iff.mp first
  have sequence : (p >>= q) t = q a middle ++ others.flatMap fun reading =>
      q reading.1 reading.2 := by
    change (p t).flatMap _ = _
    rw [readings, List.flatMap_cons]
  unfold Prefers at second ⊢
  rw [sequence, List.head?_append, second, Option.some_or]

theorem prefers_either_right {p q : Phrase α} {t rest : Text} {a : α} (absent : p t = [])
    (present : Prefers q t a rest) : Prefers (either p q) t a rest := by
  unfold Prefers either
  rw [absent, List.nil_append]
  exact present

theorem prefers_either_left {p : Phrase α} (q : Phrase α) {t rest : Text} {a : α}
    (present : Prefers p t a rest) : Prefers (either p q) t a rest := by
  unfold Prefers either at *
  rw [List.head?_append, present, Option.some_or]

theorem prefers_optional_absent {p : Phrase Unit} {t : Text} (absent : p t = []) :
    Prefers (optional p) t () t :=
  prefers_either_right absent (prefers_give () t)

theorem prefers_optionally {p : Phrase α} {t rest : Text} {a : α} (present : Prefers p t a rest) :
    Prefers (optionally p) t (some a) rest := by
  unfold Prefers optionally either at *
  rw [List.head?_append, List.head?_map, present]
  rfl

/-- One blank and no more of them. -/
theorem prefers_blanks_cons {c : Char} {t : Text} (blank : Text.isBlank c = true)
    (bare : forall d, t.head? = some d -> Text.isBlank d = false) :
    Prefers blanks (c :: t) () t := by
  have trimmed : Text.trimStart (c :: t) = t := by
    unfold Text.trimStart
    rw [List.dropWhile_cons_of_pos blank, Text.dropWhile_of_head bare]
  unfold Prefers blanks
  rw [trimmed]
  rfl

/-- The second text spells the first one, in some mixture of cases. -/
def spells : Text -> Text -> Bool
  | [], [] => true
  | w :: word, c :: spelled => Text.sameLetter w c && spells word spelled
  | _, _ => false

/-- A word in any mixture of cases is read letter by letter. -/
theorem letters_append {word : Text} (spelled : Text) (same : spells word spelled = true)
    (rest : Text) : letters word (spelled ++ rest) = [((), rest)] := by
  induction word generalizing spelled with
  | nil =>
      cases spelled with
      | nil => rfl
      | cons c more => cases same
  | cons w word ih =>
      cases spelled with
      | nil => cases same
      | cons c more =>
          have parts := Bool.and_eq_true_iff.mp same
          have step : letters (w :: word) (c :: more ++ rest) =
              (charWhere (Text.sameLetter w) (c :: (more ++ rest))).flatMap
                fun reading => letters word reading.2 := rfl
          rw [step, charWhere, if_pos parts.1, List.flatMap_cons, List.flatMap_nil, List.append_nil]
          exact ih more parts.2

theorem bind_apply (p : Phrase α) (q : α -> Phrase β) (t : Text) :
    (p >>= q) t = (p t).flatMap fun reading => q reading.1 reading.2 :=
  rfl

/-- A word does not stand where another letter does. -/
theorem letters_eq_nil {w c : Char} (differs : Text.sameLetter w c = false) (word t : Text) :
    letters (w :: word) (c :: t) = [] := by
  rw [letters, bind_apply, charWhere, if_neg (by simp [differs])]
  rfl

theorem keyword_eq_nil {w c : Char} (differs : Text.sameLetter w c = false) (word t : Text) :
    keyword (w :: word) (c :: t) = [] := by
  rw [keyword, bind_apply, letters_eq_nil differs]
  rfl

/-- A keyword and the one space behind it. -/
theorem keyword_append {word rest : Text} (spelled : Text) (same : spells word spelled = true)
    (bare : forall c, rest.head? = some c -> Text.isBlank c = false) :
    keyword word (spelled ++ ' ' :: rest) = [((), rest)] := by
  have space : Text.isBlank ' ' = true := by decide
  have behind : blanks1 (' ' :: rest) = [((), rest)] := by
    change (charWhere Text.isBlank (' ' :: rest)).flatMap (fun reading => blanks reading.2) = _
    rw [charWhere, if_pos space, List.flatMap_cons, List.flatMap_nil, List.append_nil]
    change [((), Text.trimStart rest)] = _
    rw [Text.trimStart, Text.dropWhile_of_head bare]
  have step : keyword word (spelled ++ ' ' :: rest) =
      (letters word (spelled ++ ' ' :: rest)).flatMap fun reading => blanks1 reading.2 := rfl
  rw [step, letters_append spelled same, List.flatMap_cons, List.flatMap_nil,
    List.append_nil, behind]

theorem prefers_of_singleton {p : Phrase α} {t rest : Text} {a : α} (only : p t = [(a, rest)]) :
    Prefers p t a rest := by
  unfold Prefers
  rw [only]
  rfl

/-- The longest run is preferred. -/
theorem prefers_runWhere {test : Char -> Bool} {t rest : Text} (nonempty : t ≠ [])
    (inside : forall c, c ∈ t -> test c = true)
    (boundary : forall c, rest.head? = some c -> test c = false) :
    Prefers (runWhere test) (t ++ rest) t rest := by
  have stop : rest.takeWhile test = [] := by
    cases rest with
    | nil => rfl
    | cons c more => simp [boundary c rfl]
  have taken : (t ++ rest).takeWhile test = t := by
    rw [List.takeWhile_append_of_pos inside, stop, List.append_nil]
  obtain ⟨n, size⟩ : ∃ n, t.length = n + 1 :=
    Nat.exists_eq_succ_of_ne_zero fun empty => nonempty (List.length_eq_zero_iff.mp empty)
  unfold Prefers runWhere
  rw [taken, size, List.range_succ, List.reverse_append]
  simp only [List.reverse_singleton, List.singleton_append, List.map_cons, List.head?_cons, ← size,
    List.take_left, List.drop_left]

/-- A text between two characters is read up to the nearest closing one. -/
theorem enclosed_append {opening closing : Char} {t : Text} (nonempty : t ≠ []) (free : closing ∉ t)
    (rest : Text) : enclosed opening closing (opening :: (t ++ closing :: rest)) = [(t, rest)] := by
  have inside : forall c, c ∈ t -> (c != closing) = true := fun c member =>
    bne_iff_ne.mpr fun same => free (same ▸ member)
  have taken : (t ++ closing :: rest).takeWhile (· != closing) = t := by
    rw [List.takeWhile_append_of_pos inside, List.takeWhile_cons_of_neg (by simp), List.append_nil]
  have left : (t ++ closing :: rest).dropWhile (· != closing) = closing :: rest := by
    rw [List.dropWhile_append_of_pos inside, List.dropWhile_cons_of_neg (by simp)]
  cases t with
  | nil => exact absurd rfl nonempty
  | cons c more => simp only [enclosed, beq_self_eq_true, if_true, taken, left]

/-- A phrase that does not stand here is repeated no time. -/
theorem prefers_repeated_absent {p : Phrase Unit} {t : Text} (absent : p t = []) :
    Prefers (repeated p) t () t := by
  unfold Prefers
  rw [repeated, absent]
  rfl

/-- A phrase that stands here and goes forward is repeated behind itself. -/
theorem prefers_repeated_step {p : Phrase Unit} {t middle rest : Text}
    (present : Prefers p t () middle) (shorter : middle.length < t.length)
    (again : Prefers (repeated p) middle () rest) : Prefers (repeated p) t () rest := by
  obtain ⟨others, readings⟩ : ∃ others, p t = ((), middle) :: others :=
    List.head?_eq_some_iff.mp present
  unfold Prefers at again ⊢
  rw [repeated, readings, List.flatMap_cons, dif_pos shorter, List.append_assoc, List.head?_append,
    again, Option.some_or]

theorem prefers_spanned {p : Phrase α} {t rest : Text} {a : α}
    (present : Prefers p (t ++ rest) a rest) : Prefers (spanned p) (t ++ rest) (t, a) rest := by
  have size : (t ++ rest).length - rest.length = t.length := by
    rw [List.length_append, Nat.add_sub_cancel]
  unfold Prefers spanned at *
  rw [List.head?_map, present]
  simp only [Option.map_some, size, List.take_left]

/-- A phrase that stands at the beginning is found there. -/
theorem search?_of_prefers {p : Phrase α} {t rest : Text} {a : α} (present : Prefers p t a rest) :
    search? p t = some (a, rest) := by
  unfold Prefers at present
  cases t with
  | nil => exact present
  | cons c more => simp only [search?, present]

end Phrase
end SchemaAtlas
