import SchemaAtlas.Proofs.Case
import SchemaAtlas.Proofs.Table.Trait
import SchemaAtlas.Proofs.Token.Words

namespace SchemaAtlas
namespace Table

open Token Dialect

/-!
What a reference asks for when its target is deleted or changed.

Attributes know nothing of such actions.  Their words are passed over one by one, except for the
last word of `SET DEFAULT`: it begins the expression of a default value, to which the words of the
actions behind it belong, up to the `NULL` of a `SET NULL`.  So actions change the default value of
their column and nothing else, and they change it only where `SET DEFAULT` is among them.
-/

/-- What happens to the row that is referred to. -/
inductive Event where
  | delete
  | update

/-- What becomes of the rows that refer to it. -/
inductive Reaction where
  | cascade
  | restrict
  | noAction
  | setNull
  | setDefault
deriving DecidableEq

structure Action where
  event : Event
  reaction : Reaction

def Event.word : Event -> Text
  | .delete => "DELETE"
  | .update => "UPDATE"

def Reaction.words : Reaction -> List Text
  | .cascade => ["CASCADE"]
  | .restrict => ["RESTRICT"]
  | .noAction => ["NO", "ACTION"]
  | .setNull => ["SET", "NULL"]
  | .setDefault => ["SET", "DEFAULT"]

def Action.words (a : Action) : List Text :=
  "ON" :: a.event.word :: a.reaction.words

def wordsOf (actions : List Action) : List Text :=
  actions.flatMap Action.words

/-- The words up to the next `NULL`. -/
def untilNull (words : List Text) : List Text :=
  words.takeWhile (· != "NULL".toList)

/-- The expression that some words spell, if there are any. -/
def expression? (words : List Text) : Option Text :=
  if words = [] then none else some (Text.join [' '] words)

/-- The default value of a column behind some actions.  `SET DEFAULT` replaces the value by the
words up to the next `NULL`, and no action among those words begins another expression; `inside`
says that such words are being read. -/
def defaultAfter (inside : Bool) (default : Option Text) : List Action -> Option Text
  | [] => default
  | a :: actions =>
    if inside then defaultAfter (a.reaction != .setNull) default actions
    else if a.reaction = .setDefault then defaultAfter true
      (expression? (untilNull (wordsOf actions))) actions
    else defaultAfter false default actions

/-- Other actions leave the default value as it is. -/
theorem defaultAfter_of_forall {actions : List Action}
    (kept : forall a, a ∈ actions -> a.reaction ≠ .setDefault) (default : Option Text) :
    defaultAfter false default actions = default := by
  induction actions with
  | nil => rfl
  | cons a actions ih =>
      rw [defaultAfter, if_neg Bool.false_ne_true, if_neg (kept a List.mem_cons_self)]
      exact ih fun other member => kept other (List.mem_cons_of_mem a member)

/-! Their words. -/

def actionWords : List Text :=
  ["ON", "DELETE", "UPDATE", "CASCADE", "RESTRICT", "NO", "ACTION", "SET", "NULL", "DEFAULT"]

theorem Action.words_subset (a : Action) {word : Text} (member : word ∈ a.words) :
    word ∈ actionWords := by
  have listed : forall event reaction, forall word, word ∈ (Action.mk event reaction).words ->
      word ∈ actionWords := by
    intro event reaction
    cases event <;> cases reaction <;> decide
  exact listed a.event a.reaction word member

theorem mem_actionWords {actions : List Action} {word : Text} (member : word ∈ wordsOf actions) :
    word ∈ actionWords := by
  rcases List.mem_flatMap.mp member with ⟨a, _, inside⟩
  exact a.words_subset inside

theorem isBareWord_of_mem_actionWords {word : Text} (listed : word ∈ actionWords) :
    isBareWord word = true := by
  have checked : actionWords.all isBareWord = true := by decide +kernel
  exact List.all_eq_true.mp checked word listed

theorem isItem_action (word : Text) (listed : word ∈ actionWords) : Frame.IsItem fun _ => word := by
  have checked :
      (actionWords.all fun word => opens word && word.all fun c => !Text.isBlank c && c != '(') =
        true := by
    decide
  exact Frame.isItem_of_checked (List.all_eq_true.mp checked word listed)

theorem isWord_of_mem_actionWords {word : Text} (listed : word ∈ actionWords) :
    Text.IsWord word := by
  have checked : (actionWords.all fun word => !word.isEmpty && word.all fun c => !Text.isBlank c) =
    true := by decide
  have here := List.all_eq_true.mp checked word listed
  rw [Bool.and_eq_true] at here
  exact ⟨by simpa using here.1, by simpa using here.2⟩

/-- The words of an action that sets something, without the last one. -/
def Action.setting (a : Action) : List Text :=
  ["ON", a.event.word, "SET"]

theorem Action.mem_setting (a : Action) {word : Text} (member : word ∈ a.setting) :
    word ∈ actionWords ∧ word ≠ "NULL".toList ∧ word ≠ "DEFAULT".toList := by
  rcases a with ⟨event, reaction⟩
  have checked : forall event, forall word, word ∈ ["ON".toList, Event.word event, "SET".toList] ->
      word ∈ actionWords ∧ word ≠ "NULL".toList ∧ word ≠ "DEFAULT".toList := by
    intro event
    cases event <;> decide
  exact checked event word member

/-- Where the words of an action go on, and where they do not. -/
theorem Action.words_eq (a : Action) :
    (a.reaction = .setNull -> a.words = a.setting ++ ["NULL".toList]) ∧
      (a.reaction ≠ .setNull -> "NULL".toList ∉ a.words) ∧
      (a.reaction = .setDefault -> a.words = a.setting ++ ["DEFAULT".toList]) ∧
      (a.reaction ≠ .setDefault -> "DEFAULT".toList ∉ a.words) := by
  rcases a with ⟨event, reaction⟩
  cases event <;> cases reaction <;> decide

/-- A token of such a word says what it spells. -/
theorem word_of_wordForm {word : Text} (listed : word ∈ actionWords) {t : Token}
    (formed : t.form = wordForm word) :
    t.word = word ∧ t.kind ≠ .openParen ∧ t.kind ≠ .closeParen := by
  have checked : forall word, word ∈ actionWords -> Text.upper word = word ∧
      wordKind word ≠ .string ∧
      wordKind word ≠ .openParen ∧ wordKind word ≠ .closeParen := by decide +kernel
  rcases checked word listed with ⟨upper, noString, noOpening, noClosing⟩
  have kind : t.kind = wordKind word := kind_of_form formed
  have value : t.value = word := value_of_form formed
  refine ⟨?_, kind ▸ noOpening, kind ▸ noClosing⟩
  simp [Token.word, Token.upper, kind, noString, value, upper]

/-- All of them but `NULL` go on with an expression. -/
theorem passes_of_mem_actionWords {word : Text} (listed : word ∈ actionWords)
    (other : word ≠ "NULL".toList) {t : Token} (formed : t.form = wordForm word) : Passes t := by
  have checked : forall word, word ∈ actionWords -> word ≠ "NULL".toList ->
    word ∉ stopWords := by decide
  rcases word_of_wordForm listed formed with ⟨same, level⟩
  exact ⟨same ▸ checked word listed other, level⟩

/-- An expression takes the words up to the next `NULL`. -/
theorem defaultLength_words {words : List Text}
    (listed : forall word, word ∈ words -> word ∈ actionWords) {tokens : List Token}
    (formed : tokens.map form = words.map wordForm) :
    defaultLength 0 false tokens = (untilNull words).length := by
  induction words generalizing tokens with
  | nil =>
      obtain rfl : tokens = [] := List.map_eq_nil_iff.mp formed
      rfl
  | cons word words ih =>
      rcases List.map_eq_cons_iff.mp formed with ⟨t, others, rfl, formedWord, formedOthers⟩
      have later :=
        ih (fun other member => listed other (List.mem_cons_of_mem word member)) formedOthers
      have inList := listed word List.mem_cons_self
      by_cases null : word = "NULL".toList
      · have same := (word_of_wordForm inList formedWord).1
        rw [null] at same
        simp [defaultLength, same, untilNull, null]
      · rw [defaultLength_of_passes (passes_of_mem_actionWords inList null formedWord), later,
          untilNull, untilNull, List.takeWhile_cons, if_pos (bne_iff_ne.mpr null), List.length_cons,
            Nat.add_comm]

/-- The words of an action draw no numbers from a sequence. -/
theorem drawsNumbers_expression? {words : List Text}
    (listed : forall word, word ∈ words -> word ∈ actionWords) :
    drawsNumbers (expression? words) = false := by
  have checked : (actionWords.all fun word => !Text.has "NEXTVAL".toList (Text.upper word)) =
    true := by decide +kernel
  have isWord : Text.IsWord "NEXTVAL".toList :=
    ⟨by decide, List.all_iff_forall_prop.mp (by decide)⟩
  rw [expression?]
  split
  · rfl
  · have pieces : Text.words (Text.join [' '] words) = words :=
      Text.words_join fun word member => isWord_of_mem_actionWords (listed word member)
    rw [drawsNumbers, Text.has_eq_any_words isWord, Text.words_upper, pieces, List.any_map,
      List.any_eq_false]
    intro word member
    simpa using List.all_eq_true.mp checked word (listed word member)

/-! Attributes. -/

section Attributes

variable {body name : Text} {tokens : List Token}

/-- Words without `DEFAULT` are passed over. -/
theorem readAttributes_words {words : List Text}
    (listed : forall word, word ∈ words -> word ∈ actionWords) (unset : "DEFAULT".toList ∉ words)
    (formed : tokens.map form = words.map wordForm) (a : Attributes) (rest : List Token) :
    readAttributes body name a (tokens ++ rest) = readAttributes body name a rest := by
  have checked : forall word, word ∈ actionWords -> word ≠ "DEFAULT".toList ->
    word ∉ attributeWords := by decide
  induction words generalizing tokens with
  | nil =>
      obtain rfl : tokens = [] := List.map_eq_nil_iff.mp formed
      rfl
  | cons word words ih =>
      rcases List.map_eq_cons_iff.mp formed with ⟨t, others, rfl, formedWord, formedOthers⟩
      rcases word_of_wordForm (listed word List.mem_cons_self) formedWord with ⟨same, noOpening, _⟩
      have set : word ≠ "DEFAULT".toList := fun equal => unset (equal ▸ List.mem_cons_self)
      have other : t.word ∉ attributeWords :=
        same ▸ checked word (listed word List.mem_cons_self) set
      rw [List.cons_append, readAttributes_of_not_mem other, beq_eq_false_iff_ne.mpr noOpening,
        if_neg Bool.false_ne_true]
      exact ih (fun next member => listed next (List.mem_cons_of_mem word member))
        (fun later => unset (List.mem_cons_of_mem word later)) formedOthers

/-- The word `DEFAULT` and the words behind it, of which the expression takes
those up to the next `NULL`. -/
theorem readAttributes_default {t : Token} (formed : t.form = wordForm "DEFAULT".toList)
    {actions : List Action} (spelled : Spelled body (wordsOf actions) tokens) (a : Attributes) :
    readAttributes body name a (t :: tokens) =
      readAttributes body name { a with default := expression? (untilNull (wordsOf actions)) }
        (tokens.drop (untilNull (wordsOf actions)).length) := by
  have same : t.word = "DEFAULT".toList := (word_of_wordForm (by decide) formed).1
  have formedAll := spelled.map_form
  have listed : forall word, word ∈ wordsOf actions -> word ∈ actionWords :=
    fun _ => mem_actionWords
  -- the first of the words is no `NULL`, so it does not matter that it is the first
  have size : defaultLength 0 true tokens = (untilNull (wordsOf actions)).length := by
    rw [← defaultLength_words listed formedAll]
    cases actions with
    | nil =>
        obtain rfl : tokens = [] := List.map_eq_nil_iff.mp formedAll
        rfl
    | cons first actions =>
        rcases List.map_eq_cons_iff.mp formedAll with ⟨u, others, rfl, formedOn, _⟩
        have passes := passes_of_mem_actionWords (by decide) (by decide) formedOn
        rw [defaultLength_of_passes passes, defaultLength_of_passes passes]
  have parts : untilNull (wordsOf actions) ++ (wordsOf actions).dropWhile (· != "NULL".toList) =
      wordsOf actions :=
    List.takeWhile_append_dropWhile
  have inside : forall word, word ∈ untilNull (wordsOf actions) -> word ∈ actionWords :=
    fun word member =>
    listed word ((List.takeWhile_sublist _).subset member)
  rw [← parts] at spelled
  rcases spelled.append_cases with ⟨front, behind, rfl, here, _⟩
  have length : front.length = (untilNull (wordsOf actions)).length := by
    simpa using congrArg List.length here.map_form
  have text : spannedText? body front = expression? (untilNull (wordsOf actions)) :=
    here.spannedText?_eq fun word member => isWord_of_mem_actionWords (inside word member)
  rw [← length] at size ⊢
  rw [(AttributeRead.preset same size).readAttributes_eq, text, drawsNumbers_expression? inside,
    Bool.or_false, List.drop_left]

/-- Actions are read as what they do to the default value, behind other attributes as well
as inside of an expression. -/
theorem readAttributes_actions {actions : List Action}
    (spelled : Spelled body (wordsOf actions) tokens) (a : Attributes) :
    readAttributes body name a tokens = { a with default := defaultAfter false a.default actions } ∧
      readAttributes body name a (tokens.drop (untilNull (wordsOf actions)).length) =
        { a with default := defaultAfter true a.default actions } := by
  induction actions generalizing tokens a with
  | nil =>
      obtain rfl : tokens = [] := List.map_eq_nil_iff.mp spelled.map_form
      rw [List.drop_nil, readAttributes_nil]
      exact ⟨rfl, rfl⟩
  | cons action actions ih =>
      have words : wordsOf (action :: actions) = action.words ++ wordsOf actions :=
        List.flatMap_cons
      rw [words] at spelled ⊢
      rcases spelled.append_cases with ⟨group, others, rfl, here, later⟩
      have formed := here.map_form
      have listed : forall word, word ∈ action.words -> word ∈ actionWords :=
        fun _ => action.words_subset
      rcases action.words_eq with ⟨atNull, beforeNull, atDefault, beforeDefault⟩
      constructor
      · rw [defaultAfter, if_neg Bool.false_ne_true]
        split
        · rename_i set
          rw [atDefault set] at here
          rcases here.append_cases with ⟨front, last, rfl, setting, default⟩
          rcases List.map_eq_singleton_iff.mp default.map_form with ⟨t, rfl, formedDefault⟩
          rw [List.append_assoc,
            readAttributes_words (fun word member => (action.mem_setting member).1)
            (fun member => (action.mem_setting member).2.2 rfl) setting.map_form,
            List.singleton_append, readAttributes_default formedDefault later]
          exact (ih later _).2
        · rename_i other
          rw [readAttributes_words listed (beforeDefault other) formed]
          exact (ih later a).1
      · rw [defaultAfter, if_pos rfl]
        by_cases null : action.reaction = .setNull
        · rw [atNull null] at here ⊢
          rcases here.append_cases with ⟨before, last, rfl, setting, closing⟩
          have solid : forall word, word ∈ action.setting -> (word != "NULL".toList) = true :=
            fun word member =>
            bne_iff_ne.mpr (action.mem_setting member).2.1
          have front : untilNull (action.setting ++ ["NULL".toList] ++ wordsOf actions) =
              action.setting := by
            rw [untilNull, List.append_assoc, List.takeWhile_append_of_pos solid]
            simp
          have length : action.setting.length = before.length := by
            simpa using (congrArg List.length setting.map_form).symm
          rw [front, length, List.append_assoc, List.drop_left, null]
          rw [readAttributes_words (by decide) (by decide) closing.map_form]
          exact (ih later a).1
        · have solid : forall word, word ∈ action.words -> (word != "NULL".toList) = true :=
            fun word member =>
            bne_iff_ne.mpr fun same => beforeNull null (same ▸ member)
          have length : action.words.length = group.length := by
            simpa using (congrArg List.length formed).symm
          rw [untilNull, List.takeWhile_append_of_pos solid, List.length_append, length,
            List.drop_length_add_append, bne_iff_ne.mpr null]
          exact (ih later a).2

end Attributes

end Table
end SchemaAtlas
