import SchemaAtlas.Proofs.Table.Alias

namespace SchemaAtlas
namespace Table

open Phrase

/-!
Frames: the text of a definition around its literals.

A frame is a text as a function of what is done to the literals in it.  A treatment that keeps words
reaches only the literals of a frame, provided that no type of several words goes on from one word
of the frame to the next.  That is seen from the beginnings of its items, so frames are put together
from items with spaces, commas and parentheses between them.
-/

/-- A text as a function of what is done to its literals. -/
abbrev Frame := (Text -> Text) -> Text

/-- A text whose beginning tells that no type of several words goes on into it, neither behind a
space nor behind a parenthesis. -/
def opens (t : Text) : Bool :=
  leadsOff t && clashes "max".toList t

namespace Frame

/-- Treatments that keep words reach only the literals of the frame. -/
def Kept (w : Frame) : Prop :=
  forall f g rest, KeepsWords f -> Divides rest -> f (w g ++ rest) = w (fun t => f (g t)) ++ f rest

/-- No type of several words goes on into the frame. -/
def Leads (w : Frame) : Prop :=
  forall g rest, Divides rest -> Divides (w g ++ rest)

/-- The frame does not begin like the group of an unlimited type. -/
def Limited (w : Frame) : Prop :=
  forall g rest, letters "max".toList (Text.trimStart (w g ++ rest)) = []

/-- A frame that is kept and whose beginning opens no type. -/
structure IsItem (w : Frame) : Prop where
  kept : Kept w
  begins : exists t, opens t = true ∧ forall g, exists rest, w g = t ++ rest

variable {v w : Frame}

theorem kept_nil : Kept fun _ => [] :=
  fun _ _ _ _ _ => rfl

theorem kept_word {t : Text} (solid : Solid t) : Kept fun _ => t :=
  fun _ _ _ keeps divides => keeps.word solid divides

theorem kept_literal (t : Text) : Kept fun g => Literal.single (g t) :=
  fun _ g rest keeps _ => keeps.literal (g t) rest

theorem Kept.append (first : Kept v) (leads : Leads w) (second : Kept w) :
    Kept fun g => v g ++ w g := by
  intro f g rest keeps divides
  have here := first f g (w g ++ rest) keeps (leads g rest divides)
  rw [List.append_assoc, here, second f g rest keeps divides, List.append_assoc]

theorem Kept.cons {c : Char} (kept : Kept w) (leads : Leads fun g => c :: w g) :
    Kept fun g => c :: w g := by
  intro f g rest keeps divides
  have here : Divides (c :: (w g ++ rest)) := leads g rest divides
  have behind := kept f g rest keeps divides
  rw [List.cons_append, keeps.divider here, behind, List.cons_append]

theorem leads_nil : Leads fun _ => [] :=
  fun _ _ divides => divides

theorem Leads.append (first : Leads v) (second : Leads w) : Leads fun g => v g ++ w g := by
  intro g rest divides
  rw [List.append_assoc]
  exact first g _ (second g rest divides)

theorem leads_mark {c : Char} (listed : c ∈ dividers) (leads : leadsOff [c] = true) (w : Frame) :
    Leads fun g => c :: w g :=
  fun g rest _ => divides_mark listed leads (w g ++ rest)

theorem leads_parens (limited : Limited fun g => w g ++ [')']) :
    (Leads fun g => '(' :: (w g ++ [')'])) ∧ Leads fun g => ' ' :: '(' :: (w g ++ [')']) :=
  ⟨fun g rest _ => (divides_group (limited g rest)).1,
    fun g rest _ => (divides_group (limited g rest)).2⟩

theorem kept_parens (kept : Kept w) (limited : Limited fun g => w g ++ [')']) :
    (Kept fun g => '(' :: (w g ++ [')'])) ∧ Kept fun g => ' ' :: '(' :: (w g ++ [')']) := by
  have closing : Leads fun _ => [')'] := leads_mark (by decide) (by decide) fun _ => []
  have inside : Kept fun g => w g ++ [')'] := kept.append closing (kept_nil.cons closing)
  have group := inside.cons (leads_parens limited).1
  exact ⟨group, group.cons (leads_parens limited).2⟩

/-! Items. -/

theorem isItem_word {t : Text} (solid : Solid t) (front : Text) {rest : Text}
    (split : t = front ++ rest) (opening : opens front = true) :
    IsItem fun _ => t :=
  ⟨kept_word solid, front, opening, fun _ => ⟨rest, split⟩⟩

theorem isItem_of_checked {word : Text}
    (checked : (opens word && word.all fun c => !Text.isBlank c && c != '(') = true) :
    IsItem fun _ => word := by
  rw [Bool.and_eq_true] at checked
  have solid : Solid word := fun c member => by simpa using List.all_eq_true.mp checked.2 c member
  exact isItem_word solid word (List.append_nil word).symm checked.1

theorem isItem_literal (t : Text) : IsItem fun g => Literal.single (g t) :=
  ⟨kept_literal t, ['\''], by decide, fun g => ⟨_, rfl⟩⟩

theorem isItem_backticked (t : Text) : IsItem fun g => Name.backticked (g t) :=
  ⟨fun _ g rest keeps _ => keeps.backticked (g t) rest, ['\x60'], by decide, fun g => ⟨_, rfl⟩⟩

theorem IsItem.append (item : IsItem v) (leads : Leads w) (kept : Kept w) :
    IsItem fun g => v g ++ w g := by
  rcases item.begins with ⟨t, opening, each⟩
  refine ⟨item.kept.append leads kept, t, opening, ?_⟩
  intro g
  rcases each g with ⟨rest, split⟩
  exact ⟨rest ++ w g, by rw [split, List.append_assoc]⟩

/-- An item can stand behind a space. -/
theorem IsItem.leads (item : IsItem w) : Leads fun g => ' ' :: w g := by
  rcases item.begins with ⟨t, opening, each⟩
  intro g rest _
  rcases each g with ⟨more, split⟩
  have behind := divides_space (Bool.and_eq_true_iff.mp opening).1 (more ++ rest)
  rwa [← List.append_assoc, ← split] at behind

theorem IsItem.spaced (item : IsItem w) : Kept fun g => ' ' :: w g :=
  item.kept.cons item.leads

/-- Two items with a space between them. -/
theorem IsItem.pair (first : IsItem v) (second : IsItem w) : IsItem fun g => v g ++ ' ' :: w g :=
  first.append second.leads second.spaced

/-- An item can stand behind a parenthesis. -/
theorem IsItem.limited (item : IsItem w) (v : Frame) : Limited fun g => w g ++ v g := by
  rcases item.begins with ⟨t, opening, each⟩
  intro g rest
  rcases each g with ⟨more, split⟩
  rcases Bool.and_eq_true_iff.mp opening with ⟨leads, clash⟩
  have bare := (trimStart_of_leadsOff leads (more ++ (v g ++ rest))).1
  have other := letters_eq_nil_of_clashes clash (more ++ (v g ++ rest))
  rwa [← bare, ← List.append_assoc, ← split, ← List.append_assoc] at other

/-- An item with another one in parentheses behind it. -/
theorem IsItem.grouped (first : IsItem v) (inside : IsItem w) :
    IsItem fun g => v g ++ '(' :: (w g ++ [')']) :=
  first.append (leads_parens (inside.limited _)).1 (kept_parens inside.kept (inside.limited _)).1

/-- The same with a space in front of the parenthesis. -/
theorem IsItem.groupedApart (first : IsItem v) (inside : IsItem w) :
    IsItem fun g => v g ++ ' ' :: '(' :: (w g ++ [')']) :=
  first.append (leads_parens (inside.limited _)).2 (kept_parens inside.kept (inside.limited _)).2

theorem limited_closing : Limited fun _ => [] ++ [')'] := by
  intro g rest
  have bare : Text.trimStart ([] ++ [')'] ++ rest) = ')' :: rest := rfl
  rw [bare]
  exact letters_eq_nil_of_clashes (t := [')']) (by decide) rest

/-! Lists of items. -/

section Lists

variable {α : Type} {frame : α -> Frame} {items : List α}

/-- Items with a space in front of each. -/
theorem spaced_items (each : forall item, item ∈ items -> IsItem (frame item)) :
    (Kept fun g => items.flatMap fun item => ' ' :: frame item g) ∧
      Leads fun g => items.flatMap fun item => ' ' :: frame item g := by
  induction items with
  | nil => exact ⟨kept_nil, leads_nil⟩
  | cons item items ih =>
      have here := each item List.mem_cons_self
      rcases ih fun other member => each other (List.mem_cons_of_mem item member) with ⟨kept, leads⟩
      exact ⟨here.spaced.append leads kept, here.leads.append leads⟩

/-- Items with a comma, and perhaps a space, between neighbours. -/
theorem isItem_join (nonempty : items ≠ [])
    (each : forall item, item ∈ items -> IsItem (frame item)) {space : Text}
    (narrow : space ∈ [[], [' ']]) :
    IsItem fun g => Text.join (',' :: space) (items.map fun item => frame item g) := by
  induction items with
  | nil => exact absurd rfl nonempty
  | cons item items ih =>
      have here := each item List.mem_cons_self
      cases items with
      | nil => simpa only [List.map_cons, List.map_nil, Text.join_singleton] using here
      | cons next items =>
          have later := ih (by simp) fun other member =>
            each other (List.mem_cons_of_mem item member)
          have spaced : Kept fun g =>
              space ++ Text.join (',' :: space) ((next :: items).map fun item => frame item g) := by
            simp only [List.mem_cons, List.not_mem_nil, or_false] at narrow
            rcases narrow with rfl | rfl
            · exact later.kept
            · exact later.spaced
          have comma := leads_mark (c := ',') (by decide) (by decide) fun g =>
            space ++ Text.join (',' :: space) ((next :: items).map fun item => frame item g)
          have whole := here.append comma (spaced.cons comma)
          simpa only [List.map_cons, Text.join_cons_cons, List.append_assoc,
            List.cons_append] using whole

end Lists

/-- The label of a key. -/
theorem isItem_label {label : Text} (solid : Solid label) (nonempty : label ≠ []) {more : Frame}
    (kept : Kept fun g => " PRIMARY".toList ++ more g) :
    IsItem fun g => "CONSTRAINT".toList ++ ' ' :: (label ++ (" PRIMARY".toList ++ more g)) := by
  refine ⟨?_, "CONSTRAINT".toList, by decide, fun g => ⟨_, rfl⟩⟩
  intro f g rest keeps divides
  have here := keeps.labelled solid nonempty (more g ++ rest)
  have behind := kept f g rest keeps divides
  simp only [List.append_assoc, List.cons_append] at here behind ⊢
  rw [here, behind]

end Frame

/-- A frame whose literals are left as they are is unified literal by literal. -/
theorem unifyTypes_frame {w : Frame} (kept : w.Kept) : unifyTypes (w id) = w unifyTypes := by
  apply unifyTypes_of_keepsWords
  intro f g keeps
  have whole := kept f g [] keeps divides_nil
  rwa [List.append_nil, keeps.nil, List.append_nil] at whole

end Table
end SchemaAtlas
