import SchemaAtlas.Proofs.Token.Reads
import SchemaAtlas.Table.Element

namespace SchemaAtlas
namespace Token

/-!
Groups of tokens between commas and parentheses.

Whether tokens form a group is seen from their kinds.  A list of kinds returns from a depth when it
closes all the parentheses that are open there and no comma stands outside of them.  Lists that
return from depth zero are the groups into which their sequence is cut again.
-/

/-- The kinds close the open parentheses and those that they open, and no comma stands outside. -/
def returns : Nat -> List TokenKind -> Bool
  | depth, [] => depth == 0
  | depth, kind :: rest =>
    if kind == .openParen then returns (depth + 1) rest
    else if kind == .closeParen then 0 < depth && returns (depth - 1) rest
    else (0 < depth || kind != .comma) && returns depth rest

/-- Kinds without parentheses change nothing inside of some. -/
theorem returns_succ_append {kinds : List TokenKind}
    (flat : forall kind, kind ∈ kinds -> kind ≠ .openParen ∧
    kind ≠ .closeParen) (depth : Nat) (rest : List TokenKind) :
    returns (depth + 1) (kinds ++ rest) = returns (depth + 1) rest := by
  induction kinds with
  | nil => rfl
  | cons kind kinds ih =>
      rcases flat kind List.mem_cons_self with ⟨noOpening, noClosing⟩
      have later := ih fun other member => flat other (List.mem_cons_of_mem kind member)
      simp [returns, noOpening, noClosing, later]

/-- The first step through kinds that return. -/
theorem returns_cons {depth : Nat} {t : Token} {rest : List TokenKind}
    (returning : returns depth (t.kind :: rest) = true) :
    exists next : Nat, (next : Int) = depth + nesting t ∧ returns next rest = true ∧
      (t.kind == .comma && (depth : Int) == 0) = false ∧
        (t.kind == .closeParen && (depth : Int) == 0) = false := by
  rw [returns] at returning
  by_cases opens : t.kind = .openParen
  · refine ⟨depth + 1, ?_, ?_, ?_, ?_⟩
    · simp [nesting, opens]
    · simpa [opens] using returning
    · simp [opens]
    · simp [opens]
  · by_cases closes : t.kind = .closeParen
    · rw [closes, if_neg (by decide), if_pos (by decide), Bool.and_eq_true,
        decide_eq_true_eq] at returning
      refine ⟨depth - 1, ?_, returning.2, ?_, ?_⟩
      · simp only [nesting, closes]
        rw [if_neg (by decide), if_pos (by decide)]
        omega
      · simp [closes]
      · have some : ¬ depth = 0 := by omega
        simp [some]
    · simp only [beq_iff_eq, opens, closes, if_false, Bool.and_eq_true, Bool.or_eq_true,
        decide_eq_true_eq, bne_iff_ne] at returning
      refine ⟨depth, ?_, returning.2, ?_, ?_⟩
      · simp [nesting, opens, closes]
      · rcases returning.1 with inside | noComma
        · have some : ¬ depth = 0 := by omega
          simp [some]
        · simp [noComma]
      · simp [closes]

/-- Tokens that return stay together, in front of the first group behind them. -/
theorem pieces_append {depth : Nat} {group rest first : List Token} {others : List (List Token)}
    (returning : returns depth (group.map kind) = true) (behind : pieces 0 rest = first :: others) :
    pieces depth (group ++ rest) = (group ++ first) :: others := by
  induction group generalizing depth with
  | nil =>
      have outside : depth = 0 := by simpa [returns] using returning
      rw [outside]
      exact behind
  | cons t group ih =>
      rcases returns_cons returning with ⟨next, moved, later, noComma, _⟩
      rw [List.cons_append, pieces, noComma, if_neg (by decide), ← moved, ih later]
      rfl

/-- No parenthesis of tokens that return closes one that was open before them. -/
theorem closingOffset?_append {depth : Nat} {group : List Token}
    (returning : returns depth (group.map kind) = true) (rest : List Token) :
    closingOffset? (depth + 1) (group ++ rest) = (closingOffset? 1 rest).map
      (group.length + ·) := by
  induction group generalizing depth with
  | nil =>
      have outside : depth = 0 := by simpa [returns] using returning
      simp [outside]
  | cons t group ih =>
      rcases returns_cons returning with ⟨next, moved, later, _, noEnd⟩
      have further : (depth : Int) + 1 + nesting t = next + 1 := by omega
      have stays : (t.kind == .closeParen && (depth : Int) + 1 - 1 == 0) = false := by
        rw [Int.add_sub_cancel]
        exact noEnd
      rw [List.cons_append, closingOffset?, stays, if_neg (by decide), further, ih later,
        Option.map_map]
      congr 1
      funext n
      simp only [Function.comp, List.length_cons]
      omega

/-! Groups with commas between them. -/

def commaForm : Form := (.comma, [','])

/-- The tokens are the groups in order, with a comma between neighbours. -/
inductive Parted : List (List Token) -> List Token -> Prop
  | single (group : List Token) : Parted [group] group
  | cons (group : List Token) (comma : Token) (groups : List (List Token)) (tokens : List Token)
      (between : comma.kind = .comma) (later : Parted groups tokens) :
      Parted (group :: groups) (group ++ comma :: tokens)

theorem exists_parted {lists : List (List Form)} (nonempty : lists ≠ []) {tokens : List Token}
    (formed : tokens.map form = [commaForm].intercalate lists) :
    exists groups, groups.map (List.map form) = lists ∧ Parted groups tokens := by
  induction lists generalizing tokens with
  | nil => exact absurd rfl nonempty
  | cons first lists ih =>
      cases lists with
      | nil =>
          rw [List.intercalate_singleton] at formed
          exact ⟨[tokens], by rw [List.map_singleton, formed], .single tokens⟩
      | cons second lists =>
          rw [List.intercalate_cons_cons, List.append_assoc] at formed
          rcases List.map_eq_append_iff.mp formed with
            ⟨group, others, rfl, formedFirst, formedOthers⟩
          rcases List.map_eq_cons_iff.mp formedOthers with
            ⟨comma, tokens, rfl, formedComma, formedLater⟩
          rcases ih (by simp) formedLater with ⟨groups, formedGroups, parted⟩
          refine ⟨group :: groups, ?_,
            .cons group comma groups tokens (congrArg Prod.fst formedComma) parted⟩
          rw [List.map_cons, formedFirst, formedGroups]

theorem pieces_of_parted {groups : List (List Token)} {tokens : List Token}
    (parted : Parted groups tokens)
    (returning : forall group, group ∈ groups -> returns 0 (group.map kind) = true) :
    pieces 0 tokens = groups := by
  induction parted with
  | single group =>
      have here := pieces_append (returning group List.mem_cons_self) (rfl : pieces 0 [] = [[]])
      simpa using here
  | cons group comma groups tokens between _ ih =>
      have others := ih fun other member => returning other (List.mem_cons_of_mem group member)
      have cut : pieces 0 (comma :: tokens) = [] :: groups := by
        rw [pieces, between, if_pos (by decide), others]
      have here := pieces_append (returning group List.mem_cons_self) cut
      simpa using here

/-- No parenthesis of the groups closes one that was open before them. -/
theorem closingOffset?_of_parted {groups : List (List Token)} {tokens : List Token}
    (parted : Parted groups tokens)
    (returning : forall group, group ∈ groups -> returns 0 (group.map kind) = true)
    {closing : Token} (closes : closing.kind = .closeParen) (rest : List Token) :
    closingOffset? 1 (tokens ++ closing :: rest) = some tokens.length := by
  induction parted with
  | single group =>
      have here := closingOffset?_append (returning group List.mem_cons_self) (closing :: rest)
      simpa [closingOffset?, closes] using here
  | cons group comma groups tokens between _ ih =>
      have others := ih fun other member => returning other (List.mem_cons_of_mem group member)
      have here := closingOffset?_append (returning group List.mem_cons_self)
        (comma :: (tokens ++ closing :: rest))
      simpa [closingOffset?, nesting, between, others] using here

/-- Lists of forms that the tokens of a group may have. -/
structure Grouped (lists : List (List Form)) : Prop where
  filled : forall list, list ∈ lists -> list ≠ []
  returning : forall list, list ∈ lists -> returns 0 (list.map Prod.fst) = true

theorem Grouped.returning_of_forms {lists : List (List Form)} (grouped : Grouped lists)
    {groups : List (List Token)} (formed : groups.map (List.map form) = lists) :
    forall group, group ∈ groups -> returns 0 (group.map kind) = true := by
  intro group member
  have listed : group.map form ∈ lists := formed ▸ List.mem_map_of_mem member
  have here := grouped.returning _ listed
  rwa [List.map_map] at here

/-- Tokens that were put together from groups are cut into these groups. -/
theorem groups_of_forms {lists : List (List Form)} (grouped : Grouped lists) {tokens : List Token}
    (formed : tokens.map form = [commaForm].intercalate lists) :
    (groups tokens).map (List.map form) = lists := by
  by_cases nonempty : lists = []
  · subst nonempty
    obtain rfl : tokens = [] := List.map_eq_nil_iff.mp formed
    rfl
  · rcases exists_parted nonempty formed with ⟨parts, formedParts, parted⟩
    have filled : forall part, part ∈ parts -> (!part.isEmpty) = true := by
      intro part member
      have listed : part.map form ∈ lists := formedParts ▸ List.mem_map_of_mem member
      have some := grouped.filled _ listed
      cases part with
      | nil => exact absurd rfl some
      | cons t others => rfl
    rw [groups, pieces_of_parted parted (grouped.returning_of_forms formedParts),
      List.filter_eq_self.mpr filled, formedParts]

/-- The parenthesis behind such tokens closes the one in front of them. -/
theorem closingOffset?_of_forms {lists : List (List Form)} (grouped : Grouped lists)
    {tokens : List Token} (formed : tokens.map form = [commaForm].intercalate lists)
    {closing : Token} (closes : closing.kind = .closeParen) (rest : List Token) :
    closingOffset? 1 (tokens ++ closing :: rest) = some tokens.length := by
  by_cases nonempty : lists = []
  · subst nonempty
    obtain rfl : tokens = [] := List.map_eq_nil_iff.mp formed
    simp [closingOffset?, closes]
  · rcases exists_parted nonempty formed with ⟨parts, formedParts, parted⟩
    exact closingOffset?_of_parted parted (grouped.returning_of_forms formedParts) closes rest

/-- What is made of groups whose forms are known. -/
theorem filterMap_of_forms {α β : Type} {items : List α} {shape : α -> List Form}
    {f : List Token -> Option β} {g : α -> β} {groups : List (List Token)}
    (formed : groups.map (List.map form) = items.map shape)
    (each : forall item, item ∈ items -> forall group, group.map form = shape item ->
      f group = some (g item)) :
    groups.filterMap f = items.map g := by
  induction items generalizing groups with
  | nil =>
      obtain rfl : groups = [] := List.map_eq_nil_iff.mp formed
      rfl
  | cons item items ih =>
      rcases List.map_eq_cons_iff.mp formed with ⟨group, others, rfl, formedGroup, formedOthers⟩
      have later := ih formedOthers fun other member =>
        each other (List.mem_cons_of_mem item member)
      rw [List.filterMap_cons_some (each item List.mem_cons_self group formedGroup), List.map_cons,
        later]

theorem map_of_forms {α β : Type} {items : List α} {shape : α -> List Form} {f : List Token -> β}
    {g : α -> β} {groups : List (List Token)}
    (formed : groups.map (List.map form) = items.map shape)
    (each : forall item, item ∈ items -> forall group, group.map form = shape item ->
      f group = g item) :
    groups.map f = items.map g := by
  rw [← List.filterMap_eq_map]
  exact filterMap_of_forms formed fun item member group formedGroup =>
    congrArg some (each item member group formedGroup)

/-! Listings: single tokens with commas between them. -/

/-- The forms with a comma between neighbours. -/
def listing (parts : List Form) : List Form :=
  [commaForm].intercalate (parts.map fun part => [part])

theorem listing_cons_cons (first second : Form) (parts : List Form) :
    listing (first :: second :: parts) = first :: commaForm :: listing (second :: parts) := by
  simp [listing, List.intercalate_cons_cons]

theorem listing_singleton (part : Form) : listing [part] = [part] := by
  simp [listing]

theorem mem_intercalate {lists : List (List Form)} {f : Form}
    (member : f ∈ [commaForm].intercalate lists) :
    (exists list, list ∈ lists ∧ f ∈ list) ∨ f = commaForm := by
  induction lists with
  | nil => simp at member
  | cons first lists ih =>
      cases lists with
      | nil =>
          rw [List.intercalate_singleton] at member
          exact Or.inl ⟨first, List.mem_cons_self, member⟩
      | cons second lists =>
          rw [List.intercalate_cons_cons, List.append_assoc] at member
          rcases List.mem_append.mp member with here | behind
          · exact Or.inl ⟨first, List.mem_cons_self, here⟩
          · rcases List.mem_cons.mp behind with comma | later
            · exact Or.inr comma
            · rcases ih later with ⟨list, listed, inside⟩ | comma
              · exact Or.inl ⟨list, List.mem_cons_of_mem first listed, inside⟩
              · exact Or.inr comma

/-- The forms are neither commas nor parentheses. -/
def Flat (parts : List Form) : Prop :=
  forall part, part ∈ parts -> part.1 ∉ [TokenKind.openParen, .closeParen, .comma]

/-- Forms that each stand for themselves, with a comma and perhaps white space
between neighbours. -/
theorem segment_listing {parts : List Form}
    (alone : forall part, part ∈ parts -> Segment part.2 [part]) {space : Text}
    (blank : forall rest, Reads space [] rest) :
    Segment (Text.join (',' :: space) (parts.map Prod.snd)) (listing parts) := by
  have each : forall item, item ∈ parts.map (fun part => (part.2, [part])) ->
      Segment item.1 item.2 := by
    intro item member
    rcases List.mem_map.mp member with ⟨part, listed, rfl⟩
    exact alone part listed
  have separates : forall rest, Reads (',' :: space) [commaForm] rest := fun rest =>
    (reads_mark (',', .comma) (by decide) (space ++ rest)).append (blank rest)
  have joined := segment_join (by decide) separates each
  rwa [List.map_map, List.map_map] at joined

/-- Each token of a listing is a group of its own. -/
theorem Flat.grouped {parts : List Form} (flat : Flat parts) :
    Grouped (parts.map fun part => [part]) := by
  constructor
  · intro list member
    rcases List.mem_map.mp member with ⟨part, _, rfl⟩
    simp
  · intro list member
    rcases List.mem_map.mp member with ⟨part, listed, rfl⟩
    have outside := flat part listed
    simp only [List.mem_cons, List.not_mem_nil, or_false, not_or] at outside
    simp [returns, outside]

theorem Flat.returns_append {parts : List Form} (flat : Flat parts) (depth : Nat)
    (rest : List TokenKind) : returns depth (parts.map Prod.fst ++ rest) = returns depth rest := by
  induction parts with
  | nil => rfl
  | cons part parts ih =>
      have outside := flat part List.mem_cons_self
      simp only [List.mem_cons, List.not_mem_nil, or_false, not_or] at outside
      have later := ih fun other member => flat other (List.mem_cons_of_mem part member)
      simp [returns, outside, later]

/-- Flat lists in parentheses are skipped by whoever looks for the end of a group. -/
theorem returns_parens {lists : List (List Form)}
    (flat : forall list, list ∈ lists -> Flat list) (rest : List TokenKind) :
    returns 0 (.openParen :: ([commaForm].intercalate lists).map Prod.fst ++ .closeParen :: rest) =
      returns 0 rest := by
  have level : forall kind, kind ∈ ([commaForm].intercalate lists).map Prod.fst ->
      kind ≠ .openParen ∧ kind ≠ .closeParen := by
    intro kind member
    rcases List.mem_map.mp member with ⟨f, listed, rfl⟩
    rcases mem_intercalate listed with ⟨list, inLists, inside⟩ | rfl
    · have outside := flat list inLists f inside
      simp only [List.mem_cons, List.not_mem_nil, or_false, not_or] at outside
      exact ⟨outside.1, outside.2.1⟩
    · decide
  simp [returns, returns_succ_append level]

/-- A listing in parentheses. -/
theorem Flat.returns_parens {parts : List Form} (flat : Flat parts) (rest : List TokenKind) :
    returns 0 (.openParen :: (listing parts).map Prod.fst ++ .closeParen :: rest) =
      returns 0 rest := by
  apply Token.returns_parens
  intro list member
  rcases List.mem_map.mp member with ⟨part, listed, rfl⟩
  intro f inside
  rw [List.mem_singleton.mp inside]
  exact flat part listed

theorem flatMap_listing (parts : List Form) :
    (listing parts).flatMap Prod.snd = Text.join [','] (parts.map Prod.snd) := by
  induction parts with
  | nil => rfl
  | cons first parts ih =>
      cases parts with
      | nil => simp [listing_singleton, Text.join_singleton]
      | cons second parts =>
          rw [listing_cons_cons, List.flatMap_cons, List.flatMap_cons, ih]
          simp only [List.map_cons, Text.join_cons_cons, List.append_assoc]
          rfl

/-- The texts of listed tokens, put together. -/
theorem flatMap_value_of_listing {parts : List Form} {tokens : List Token}
    (formed : tokens.map form = listing parts) :
    tokens.flatMap value = Text.join [','] (parts.map Prod.snd) := by
  rw [← flatMap_listing, ← formed, List.flatMap_map]
  rfl

end Token

namespace Table

open Token

/-- Tokens in parentheses are told from those behind them. -/
theorem parens_of_forms {lists : List (List Form)} (grouped : Grouped lists) {tokens : List Token}
    (formed : tokens.map form = [commaForm].intercalate lists) {closing : Token}
    (closes : closing.kind = .closeParen) (rest : List Token) :
    insideParens (tokens ++ closing :: rest) = tokens ∧
      afterParens (tokens ++ closing :: rest) = rest := by
  have offset := closingOffset?_of_forms grouped formed closes rest
  constructor
  · simp only [insideParens, offset, List.take_left]
  · simp [afterParens, offset]

end Table
end SchemaAtlas
