import Mathlib.Data.List.Forall2
import SchemaAtlas.Proofs.Token.Group
import SchemaAtlas.Proofs.Token.Number

namespace SchemaAtlas
namespace Token

/-!
Tokens together with the places where they stand.

The expression of a default value is cut out of the text from its first token to its last, so what a
definition says depends on places as well as on forms.  A text gives tokens with a property when it
gives them behind every other text and in front of every break; the property may speak of the whole
text, in which the places count.
-/

theorem after_append (place : Place) (first second : Text) :
    place.after (first ++ second) = (place.after first).after second :=
  List.foldl_append

theorem position_after (place : Place) (t : Text) :
    (place.after t).position = place.position + t.length := by
  induction t generalizing place with
  | nil => rfl
  | cons c t ih =>
      have stepped : (place.step c).position = place.position + 1 := by
        rw [Place.step]
        split <;> rfl
      have later := ih (place.step c)
      rw [stepped] at later
      change ((place.step c).after t).position = _
      rw [later, List.length_cons]
      omega

theorem position_after_start (t : Text) : (Place.start.after t).position = t.length := by
  rw [position_after]
  exact Nat.zero_add _

/-- Behind any text and in front of every break, the text gives tokens that have a
property in view of the whole. -/
def Gives (t : Text) (P : Text -> List Token -> Prop) : Prop :=
  forall front rest, Broken rest -> exists tokens, P (front ++ (t ++ rest)) tokens ∧
    scanFrom .keep (Place.start.after front) (t ++ rest) =
      tokens ++ scanFrom .keep (Place.start.after (front ++ t)) rest

section Gives

variable {s t : Text} {P Q : Text -> List Token -> Prop}

theorem Segment.gives {forms : List Form} (segment : Segment t forms) :
    Gives t fun _ tokens => tokens.map form = forms := by
  intro front rest broken
  rcases segment rest broken (Place.start.after front) with ⟨tokens, formed, scanned⟩
  exact ⟨tokens, formed, after_append .start front t ▸ scanned⟩

theorem Gives.imp (gives : Gives t P)
    (weaker : forall body tokens, P body tokens -> Q body tokens) : Gives t Q := by
  intro front rest broken
  rcases gives front rest broken with ⟨tokens, holds, scanned⟩
  exact ⟨tokens, weaker _ tokens holds, scanned⟩

/-- One text and then another that begins with a break. -/
theorem Gives.append (first : Gives s P) (begins : Broken t) (second : Gives t Q) :
    Gives (s ++ t) fun body tokens =>
      exists front behind, tokens = front ++ behind ∧ P body front ∧ Q body behind := by
  intro front rest broken
  rcases first front (t ++ rest) (begins.append broken) with ⟨tokens, holds, scanned⟩
  rcases second (front ++ s) rest broken with ⟨others, holdsToo, scannedToo⟩
  refine ⟨tokens ++ others, ⟨tokens, others, rfl, ?_, ?_⟩, ?_⟩
  · rwa [List.append_assoc]
  · rwa [List.append_assoc] at holdsToo ⊢
  · rw [List.append_assoc, scanned, scannedToo, List.append_assoc, List.append_assoc]

theorem Gives.blank_cons {c : Char} (blank : Text.isBlank c = true) (gives : Gives t P) :
    Gives (c :: t) P := by
  intro front rest broken
  rcases reads_blank blank (t ++ rest) (Place.start.after front) with ⟨none, formed, skipped⟩
  obtain rfl : none = [] := List.map_eq_nil_iff.mp formed
  rcases gives (front ++ [c]) rest broken with ⟨tokens, holds, scanned⟩
  rw [List.append_assoc] at holds
  rw [after_append .start front [c], List.append_assoc] at scanned
  exact ⟨tokens, holds, skipped.trans scanned⟩

theorem Gives.blanks_append {padding : Text}
    (blank : forall c, c ∈ padding -> Text.isBlank c = true) (gives : Gives t P) :
    Gives (padding ++ t) P := by
  induction padding with
  | nil => exact gives
  | cons c padding ih =>
      have behind := ih fun d member => blank d (List.mem_cons_of_mem c member)
      exact behind.blank_cons (blank c List.mem_cons_self)

/-- A comma in front is a token of its own, whatever stands behind it. -/
theorem Gives.comma_cons (gives : Gives t P) :
    Gives (',' :: t) fun body tokens => exists comma others, tokens = comma :: others ∧
      comma.kind = .comma ∧
      P body others := by
  intro front rest broken
  rcases reads_mark (',', .comma) (by decide) (t ++ rest) (Place.start.after front) with
    ⟨first, formed, scanned⟩
  rcases List.map_eq_singleton_iff.mp formed with ⟨comma, rfl, isComma⟩
  rcases gives (front ++ [',']) rest broken with ⟨tokens, holds, behind⟩
  rw [List.append_assoc] at holds
  rw [after_append .start front [','], List.append_assoc] at behind
  exact ⟨comma :: tokens, ⟨comma, tokens, rfl, kind_of_form isComma, holds⟩,
    scanned.trans (congrArg (comma :: ·) behind)⟩

theorem gives_nil : Gives [] fun _ tokens => tokens = [] := by
  intro front rest _
  exact ⟨[], rfl, by rw [List.append_nil]; rfl⟩

/-- A text in parentheses at the beginning of what is read. -/
theorem Gives.scan_parens (gives : Gives t P) (tail : Text) : exists opening tokens closing rest,
    scan ('(' :: t ++ ')' :: tail) .keep = opening :: (tokens ++ closing :: rest) ∧
      opening.kind = .openParen ∧
      P ('(' :: t ++ ')' :: tail) tokens ∧ closing.kind = .closeParen := by
  rcases reads_mark ('(', .openParen) (by decide) (t ++ ')' :: tail) Place.start with
    ⟨first, formed, scanned⟩
  rcases List.map_eq_singleton_iff.mp formed with ⟨opening, rfl, opens⟩
  rcases gives ['('] (')' :: tail) (broken_cons (by decide) tail) with
    ⟨tokens, holds, scannedInside⟩
  rcases reads_mark (')', .closeParen) (by decide) tail (Place.start.after (['('] ++ t)) with
    ⟨last, formedLast, scannedLast⟩
  rcases List.map_eq_singleton_iff.mp formedLast with ⟨closing, rfl, closes⟩
  have whole := scanned.trans
    (congrArg ([opening] ++ ·) (scannedInside.trans (congrArg (tokens ++ ·) scannedLast)))
  exact ⟨opening, tokens, closing, _, whole, kind_of_form opens, holds, kind_of_form closes⟩

end Gives

/-! Lists of texts. -/

section Lists

variable {α : Type} {text : α -> Text} {P : α -> Text -> List Token -> Prop} {items : List α}

theorem broken_spaced (text : α -> Text) (items : List α) :
    Broken (items.flatMap fun item => ' ' :: text item) := by
  cases items with
  | nil => exact broken_nil
  | cons item items => exact broken_cons (by decide) _

/-- A space in front of each text. -/
theorem gives_spaced (each : forall item, item ∈ items -> Gives (text item) (P item)) :
    Gives (items.flatMap fun item => ' ' :: text item) fun body tokens => exists groups,
      List.Forall₂ (fun item group => P item body group) items groups ∧
        tokens = groups.flatten := by
  induction items with
  | nil => exact gives_nil.imp fun body tokens none => ⟨[], .nil, none⟩
  | cons item items ih =>
      have here := (each item List.mem_cons_self).blank_cons (by decide : Text.isBlank ' ' = true)
      have later := ih fun other member => each other (List.mem_cons_of_mem item member)
      refine (here.append (broken_spaced text items) later).imp ?_
      rintro body tokens ⟨front, behind, rfl, holds, groups, held, rfl⟩
      exact ⟨front :: groups, .cons holds held, rfl⟩

/-- A comma between neighbours, and perhaps white space behind it. -/
theorem gives_join {padding : Text} (blank : forall c, c ∈ padding -> Text.isBlank c = true)
    (nonempty : items ≠ []) (each : forall item, item ∈ items -> Gives (text item) (P item)) :
    Gives (Text.join (',' :: padding) (items.map text)) fun body tokens => exists groups,
      List.Forall₂ (fun item group => P item body group) items groups ∧ Parted groups tokens := by
  induction items with
  | nil => exact absurd rfl nonempty
  | cons item items ih =>
      have here := each item List.mem_cons_self
      cases items with
      | nil =>
          rw [List.map_singleton, Text.join_singleton]
          exact here.imp fun body tokens holds => ⟨[tokens], .cons holds .nil, .single tokens⟩
      | cons next items =>
          have later := ih (by simp) fun other member =>
            each other (List.mem_cons_of_mem item member)
          have behind := (later.blanks_append blank).comma_cons
          rw [List.map_cons, List.map_cons, Text.join_cons_cons, List.append_assoc]
          refine (here.append (broken_cons (by decide) _) behind).imp ?_
          rintro body tokens ⟨front, _, rfl, holds, comma, rest, rfl, isComma, groups, held, parted⟩
          exact ⟨front :: groups, .cons holds held, .cons front comma groups rest isComma parted⟩

end Lists

/-! Spans. -/

/-- The tokens of a text that stands in the whole take up that text. -/
theorem spannedText?_eq {front t rest : Text} {first : Token} {others : List Token}
    (begins : first.place.position = front.length)
    (ends : ((first :: others).getLastD first).stop = front.length + t.length) :
    Table.spannedText? (front ++ (t ++ rest)) (first :: others) = some (Text.trim t) := by
  have cut : ((front ++ (t ++ rest)).take (front.length + t.length)).drop front.length = t := by
    rw [List.take_length_add_append, List.drop_left, List.take_left]
  rw [Table.spannedText?, ends, begins, cut]

/-- A piece that is one token. -/
theorem IsLexeme.gives {t : Text} {kind : LexemeKind} (lexeme : IsLexeme t kind)
    (shown : kind ≠ .comment ∧ kind ≠ .blank) :
    Gives t fun body tokens => tokens.map form = formsOf kind t ∧
      Table.spannedText? body tokens = some (Text.trim t) := by
  intro front rest broken
  rcases lexeme rest broken with ⟨c, body, rfl, cut⟩
  let place := Place.start.after front
  have scanned : scanFrom .keep place (c :: body ++ rest) =
      (ofLexeme? .keep place kind (c :: body)).toList ++
      scanFrom .keep (place.after (c :: body)) rest := by
    rw [List.cons_append, scanFrom, cut]
    simp only [List.take_left, List.drop_left]
  rw [← after_append] at scanned
  have one : forall k, Table.spannedText? (front ++ (c :: body ++ rest)) [⟨k, c :: body, place⟩] =
      some (Text.trim (c :: body)) := by
    intro k
    apply spannedText?_eq (position_after_start front)
    change place.position + (c :: body).length = _
    rw [position_after_start]
  cases kind with
  | comment => exact absurd rfl shown.1
  | blank => exact absurd rfl shown.2
  | word => exact ⟨_, ⟨rfl, one _⟩, scanned⟩
  | token k => exact ⟨_, ⟨rfl, one _⟩, scanned⟩

/-- A sign in front of a number is a token of its own. -/
theorem cut_sign {sign : Char} (listed : sign ∈ ['+', '-']) {number : Text}
    (isNumber : IsNumber number) (rest : Text) :
    Lexeme.cut sign (number ++ rest) = (.token .operator, 0) := by
  rcases isNumber.begins with ⟨c, body, rfl, first⟩
  have noComment : c ≠ '-' := by
    rintro rfl
    rcases first with digit | point
    · exact absurd digit (by decide)
    · exact absurd point (by decide)
  have noSign : Text.isBlank sign = false ∧ Text.isDecimalDigit sign = false ∧ sign ≠ '.' ∧
      sign ≠ '/' ∧
      Lexeme.punctuation? sign = none ∧ Lexeme.isBareChar sign = false ∧
      sign ∉ ['\'', '"', '\x60', '['] ∧
      sign ∉ [':', '<', '>', '!', '|'] := by
    simp only [List.mem_cons, List.not_mem_nil, or_false] at listed
    rcases listed with rfl | rfl
    · decide
    · decide
  rcases noSign with ⟨solid, noDigit, noPoint, noSlash, unmarked, noWord, unquoted, single⟩
  simp only [List.mem_cons, List.not_mem_nil, or_false, not_or] at unquoted single
  have comment : Lexeme.comment? sign (c :: (body ++ rest)) = none := by
    simp [Lexeme.comment?, noComment, noSlash]
  have plain : Lexeme.quotedPiece? sign (c :: (body ++ rest)) = none := by
    simp [Lexeme.quotedPiece?, unquoted]
  have short : Lexeme.operatorLength sign (c :: (body ++ rest)) = 0 := by
    simp [Lexeme.operatorLength, Lexeme.isDoubleOperator, single]
  rw [List.cons_append]
  simp [Lexeme.cut, comment, solid, plain, number?_eq_none noDigit noPoint, unmarked, noWord, short]

theorem gives_signed {sign : Char} (listed : sign ∈ ['+', '-']) {number : Text}
    (isNumber : IsNumber number) :
    Gives (sign :: number) fun body tokens =>
      tokens.map form = [(.operator, [sign]), (.number, number)] ∧
      Table.spannedText? body tokens = some (Text.trim (sign :: number)) := by
  intro front rest broken
  let place := Place.start.after front
  rcases lexeme_number isNumber rest broken with ⟨c, digits, rfl, cut⟩
  have first : scanFrom .keep place (sign :: (c :: digits ++ rest)) =
      ⟨.operator, [sign], place⟩ :: scanFrom .keep (place.after [sign]) (c :: digits ++ rest) := by
    rw [scanFrom, cut_sign listed isNumber rest]
    rfl
  have second : scanFrom .keep (place.after [sign]) (c :: digits ++ rest) =
      ⟨.number, c :: digits, place.after [sign]⟩ :: scanFrom .keep
        ((place.after [sign]).after (c :: digits)) rest := by
    rw [List.cons_append, scanFrom, cut]
    simp only [List.take_left, List.drop_left]
    rfl
  refine ⟨[⟨.operator, [sign], place⟩, ⟨.number, c :: digits, place.after [sign]⟩], ⟨rfl, ?_⟩, ?_⟩
  · apply spannedText?_eq (position_after_start front)
    change (place.after [sign]).position + (c :: digits).length = _
    rw [position_after, position_after_start]
    simp only [List.length_cons, List.length_nil]
    omega
  · have moved : Place.start.after (front ++ sign :: c :: digits) =
        (place.after [sign]).after (c :: digits) := by
      rw [after_append]
      rfl
    rw [moved, List.cons_append (a := sign), first, second]
    rfl

end Token
end SchemaAtlas
