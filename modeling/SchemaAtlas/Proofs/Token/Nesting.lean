import Mathlib.Data.Nat.Find
import SchemaAtlas.Proofs.Token.Group

namespace SchemaAtlas
namespace Token

/-!
Parentheses that are closed, and the groups between them.

The search for a closing parenthesis and the division at commas keep count of the open parentheses,
each for itself, and only the search stops where none is open.  What stands in front of the
parenthesis that it finds never closes more than is open.  So the count of the division does not
fall below zero, and its groups close what they open.
-/

/-! What is counted. -/

/-- The number of opening parentheses among tokens. -/
def opened (tokens : List Token) : Nat :=
  tokens.countP fun t => t.kind == .openParen

/-- The number of closing parentheses among tokens. -/
def closed (tokens : List Token) : Nat :=
  tokens.countP fun t => t.kind == .closeParen

/-- A parenthesis counts as the token changes the depth. -/
theorem counts_cons (t : Token) (tokens : List Token) :
    (opened (t :: tokens) : Int) - closed (t :: tokens) =
      nesting t + (opened tokens - closed tokens) := by
  unfold opened closed nesting
  rw [List.countP_cons, List.countP_cons]
  by_cases opens : t.kind = .openParen
  · simp [opens]
    omega
  · by_cases closes : t.kind = .closeParen
    · simp [closes]
      omega
    · simp [opens, closes]

/-- What tokens close in excess of what they open and of what is open in front of them does not
change with the first of them. -/
theorem excess_cons {depth next : Nat} {t : Token} (moved : (next : Int) = depth + nesting t)
    (tokens : List Token) :
    (closed (t :: tokens) : Int) - (opened (t :: tokens) + depth) =
      closed tokens - (opened tokens + next) := by
  have counts := counts_cons t tokens
  omega

/-! The parenthesis that closes another one. -/

/-- One step of the search: the token is the one that is looked for, or it leads to a depth from
which the search goes on. -/
theorem closingOffset?_step (depth : Nat) (t : Token) (rest : List Token) :
    (t.kind = .closeParen ∧ depth = 0 ∧ closingOffset? (depth + 1) (t :: rest) = some 0) ∨
      exists next : Nat, (next : Int) = depth + nesting t ∧
        closingOffset? (depth + 1) (t :: rest) = (closingOffset? (next + 1) rest).map (· + 1) := by
  by_cases ends : t.kind = .closeParen ∧ depth = 0
  · rcases ends with ⟨closes, rfl⟩
    refine .inl ⟨closes, rfl, ?_⟩
    simp [closingOffset?, closes]
  · have stays : (t.kind == .closeParen && (depth : Int) + 1 - 1 == 0) = false := by
      simpa using ends
    have above : 0 ≤ (depth : Int) + nesting t := by
      unfold nesting
      split
      · omega
      · split
        · rename_i closes
          have some : depth ≠ 0 := fun outside => ends ⟨beq_iff_eq.mp closes, outside⟩
          omega
        · omega
    refine .inr ⟨((depth : Int) + nesting t).toNat, Int.toNat_of_nonneg above, ?_⟩
    rw [closingOffset?, stays, if_neg Bool.false_ne_true, Int.toNat_of_nonneg above,
      Int.add_right_comm]

/-- The search ends at the first token with which one more parenthesis is closed than is opened. -/
theorem closingOffset?_eq_some_iff (depth : Nat) {n : Nat} {tokens : List Token} :
    closingOffset? (depth + 1) tokens = some n ↔
      n < tokens.length ∧ closed (tokens.take (n + 1)) =
        opened (tokens.take (n + 1)) + (depth + 1) ∧
        forall k, k < n -> closed (tokens.take (k + 1)) ≠
          opened (tokens.take (k + 1)) + (depth + 1) := by
  induction tokens generalizing depth n with
  | nil => simp [closingOffset?]
  | cons t rest ih =>
      rcases closingOffset?_step depth t rest with ⟨closes, rfl, found⟩ | ⟨next, moved, found⟩
      · have here : closed ((t :: rest).take 1) = opened ((t :: rest).take 1) + (0 + 1) := by
          simp [opened, closed, closes]
        rw [found, Option.some.injEq]
        constructor
        · rintro rfl
          exact ⟨Nat.succ_pos _, here, fun k before => absurd before (Nat.not_lt_zero k)⟩
        · rintro ⟨_, _, first⟩
          by_contra later
          exact first 0 (Nat.pos_of_ne_zero (Ne.symm later)) here
      · have movedUp : ((next + 1 : Nat) : Int) = (depth + 1 : Nat) + nesting t := by omega
        have carried : forall k, closed ((t :: rest).take (k + 1)) =
            opened ((t :: rest).take (k + 1)) + (depth + 1) ↔
            closed (rest.take k) = opened (rest.take k) + (next + 1) := by
          intro k
          have excess := excess_cons movedUp (rest.take k)
          rw [List.take_succ_cons]
          omega
        simp only [found, ne_eq, carried]
        cases n with
        | zero => simp [opened, closed]
        | succ n =>
            simp only [Option.map_eq_some_iff, Nat.add_right_cancel_iff, exists_eq_right, ih,
              List.length_cons, Nat.add_lt_add_iff_right]
            refine and_congr_right fun _ => and_congr_right fun _ =>
              ⟨fun first k before => ?_, fun first k before => ?_⟩
            · cases k with
              | zero => simp [opened, closed]
              | succ k => exact first k (Nat.lt_of_succ_lt_succ before)
            · exact first (k + 1) (Nat.succ_lt_succ before)

/-- The tokens from one index up to another, both included. -/
def span (tokens : List Token) (first last : Nat) : List Token :=
  (tokens.drop first).take (last + 1 - first)

/-- The parenthesis at one index is closed at another: that is the first one behind it up to
which as many parentheses are closed as are opened. -/
structure Closes (tokens : List Token) (opening closing : Nat) : Prop where
  behind : opening < closing
  inside : closing < tokens.length
  level : opened (span tokens opening closing) = closed (span tokens opening closing)
  first : forall k, opening < k ->
    k < closing -> opened (span tokens opening k) ≠ closed (span tokens opening k)

section
variable {tokens : List Token} {o : Nat} {opening : Token} (there : tokens[o]? = some opening)
include there

theorem drop_eq_cons : tokens.drop o = opening :: tokens.drop (o + 1) := by
  rcases List.getElem?_eq_some_iff.mp there with ⟨inside, rfl⟩
  exact List.drop_eq_getElem_cons inside

variable (opens : opening.kind = .openParen)
include opens

theorem closingIndex?_eq :
    closingIndex? tokens o = (closingOffset? 1 (tokens.drop (o + 1))).map (o + 1 + ·) := by
  have first : closingOffset? 0 (opening :: tokens.drop (o + 1)) =
      (closingOffset? 1 (tokens.drop (o + 1))).map (· + 1) := by
    simp [closingOffset?, nesting, opens]
  rw [closingIndex?, drop_eq_cons there, first, Option.map_map]
  congr 1
  funext n
  simp only [Function.comp]
  omega

/-- The parenthesis is made up for just if the tokens behind it close one more than they open. -/
theorem level_span_iff (n : Nat) :
    opened (span tokens o (o + 1 + n)) = closed (span tokens o (o + 1 + n)) ↔
      closed ((tokens.drop (o + 1)).take (n + 1)) =
        opened ((tokens.drop (o + 1)).take (n + 1)) + (0 + 1) := by
  have size : o + 1 + n + 1 - o = n + 1 + 1 := by omega
  have moved : nesting opening = 1 := by simp [nesting, opens]
  have counts := counts_cons opening ((tokens.drop (o + 1)).take (n + 1))
  rw [span, size, drop_eq_cons there, List.take_succ_cons]
  omega

theorem closingIndex?_eq_some_iff (c : Nat) :
    closingIndex? tokens o = some c ↔ Closes tokens o c := by
  rw [closingIndex?_eq there opens, Option.map_eq_some_iff]
  constructor
  · rintro ⟨n, found, rfl⟩
    rcases (closingOffset?_eq_some_iff 0).mp found with ⟨inside, level, first⟩
    rw [List.length_drop] at inside
    refine ⟨by omega, by omega, (level_span_iff there opens n).mpr level, ?_⟩
    intro k behind before
    obtain ⟨m, rfl⟩ := Nat.exists_eq_add_of_le behind
    exact fun same => first m (by omega) ((level_span_iff there opens m).mp same)
  · intro closes
    obtain ⟨n, rfl⟩ := Nat.exists_eq_add_of_le closes.behind
    refine ⟨n, (closingOffset?_eq_some_iff 0).mpr
      ⟨?_, (level_span_iff there opens n).mp closes.level, ?_⟩, rfl⟩
    · have inside := closes.inside
      rw [List.length_drop]
      omega
    · intro k before same
      exact closes.first (o + 1 + k) (by omega) (by omega) ((level_span_iff there opens k).mpr same)

theorem closingIndex?_eq_none_iff :
    closingIndex? tokens o = none ↔
      forall k, o < k -> k < tokens.length ->
        opened (span tokens o k) ≠ closed (span tokens o k) := by
  constructor
  · intro absent k behind inside level
    have some : exists k, o < k ∧ k < tokens.length ∧
        opened (span tokens o k) = closed (span tokens o k) :=
      ⟨k, behind, inside, level⟩
    rcases Nat.find_spec some with ⟨behindFirst, insideFirst, levelFirst⟩
    have closes : Closes tokens o (Nat.find some) :=
      ⟨behindFirst, insideFirst, levelFirst, fun m behindOpening before same =>
        Nat.find_min some before ⟨behindOpening, before.trans insideFirst, same⟩⟩
    rw [(closingIndex?_eq_some_iff there opens _).mpr closes] at absent
    cases absent
  · intro never
    rw [Option.eq_none_iff_forall_ne_some]
    intro c found
    have closes := (closingIndex?_eq_some_iff there opens c).mp found
    exact never c closes.behind closes.inside closes.level

end

/-! The groups between two parentheses. -/

/-- With some parentheses open in front of them, the tokens close these and all that they open
themselves, never one more than is open. -/
structure Settles (depth : Nat) (tokens : List Token) : Prop where
  level : closed tokens = opened tokens + depth
  covered : forall front, front <+: tokens -> closed front ≤ opened front + depth

/-- No comma stands outside of all parentheses, those included that are open in
front of the tokens. -/
def Undivided (depth : Nat) (tokens : List Token) : Prop :=
  forall front comma, front ++ [comma] <+: tokens -> comma.kind = .comma ->
    closed front < opened front + depth

theorem settles_nil_iff {depth : Nat} : Settles depth [] ↔ depth = 0 := by
  constructor
  · intro settles
    simpa [opened, closed] using settles.level.symm
  · rintro rfl
    refine ⟨rfl, fun front begins => ?_⟩
    rw [List.prefix_nil.mp begins]
    exact Nat.le_refl _

theorem settles_cons_iff {depth next : Nat} {t : Token} (moved : (next : Int) = depth + nesting t)
    {rest : List Token} : Settles depth (t :: rest) ↔ Settles next rest := by
  constructor
  · rintro ⟨level, covered⟩
    constructor
    · have excess := excess_cons moved rest
      omega
    · intro front begins
      have whole := covered (t :: front) (List.cons_prefix_cons.mpr ⟨rfl, begins⟩)
      have excess := excess_cons moved front
      omega
  · rintro ⟨level, covered⟩
    constructor
    · have excess := excess_cons moved rest
      omega
    · intro front begins
      cases front with
      | nil => exact Nat.zero_le _
      | cons first front =>
          rcases List.cons_prefix_cons.mp begins with ⟨rfl, later⟩
          have below := covered front later
          have excess := excess_cons moved front
          omega

theorem undivided_cons {depth next : Nat} {t : Token} (moved : (next : Int) = depth + nesting t)
    {rest : List Token} (undivided : Undivided next rest) (inside : t.kind = .comma -> 0 < depth) :
    Undivided depth (t :: rest) := by
  intro front comma begins isComma
  cases front with
  | nil =>
      rcases List.cons_prefix_cons.mp begins with ⟨rfl, _⟩
      simpa [opened, closed] using inside isComma
  | cons first front =>
      rcases List.cons_prefix_cons.mp begins with ⟨rfl, later⟩
      have below := undivided front comma later isComma
      have excess := excess_cons moved front
      omega

/-- Up to the closing parenthesis that is looked for, the tokens settle. -/
theorem settles_take (depth : Nat) {n : Nat} {tokens : List Token}
    (found : closingOffset? (depth + 1) tokens = some n) : Settles depth (tokens.take n) := by
  induction tokens generalizing depth n with
  | nil => cases found
  | cons t rest ih =>
      rcases closingOffset?_step depth t rest with ⟨_, rfl, here⟩ | ⟨next, moved, later⟩
      · obtain rfl : 0 = n := Option.some.inj (here.symm.trans found)
        exact settles_nil_iff.mpr rfl
      · rcases Option.map_eq_some_iff.mp (later.symm.trans found) with ⟨m, foundLater, rfl⟩
        rw [List.take_succ_cons]
        exact (settles_cons_iff moved).mpr (ih next foundLater)

/-- A token that settled tokens begin with leads to a depth from which the others settle. -/
theorem Settles.exists_next {depth : Nat} {t : Token} {rest : List Token}
    (settles : Settles depth (t :: rest)) :
    exists next : Nat, (next : Int) = depth + nesting t ∧ Settles next rest := by
  have counts := counts_cons t []
  have first := settles.covered [t] ⟨rest, rfl⟩
  have nothing : opened [] = 0 ∧ closed [] = 0 := ⟨rfl, rfl⟩
  have moved : (((depth : Int) + nesting t).toNat : Int) = depth + nesting t :=
    Int.toNat_of_nonneg (by omega)
  exact ⟨_, moved, (settles_cons_iff moved).mp settles⟩

/-- Tokens that settle are cut into pieces that settle and are not divided any more. -/
theorem pieces_of_settles {depth : Nat} {tokens : List Token} (settles : Settles depth tokens) :
    exists first others, pieces depth tokens = first :: others ∧
      (Settles depth first ∧ Undivided depth first) ∧
      forall piece, piece ∈ others -> Settles 0 piece ∧ Undivided 0 piece := by
  induction tokens generalizing depth with
  | nil =>
      refine ⟨[], [], rfl, ⟨settles, ?_⟩, fun piece member => nomatch member⟩
      intro front comma begins
      simp at begins
  | cons t rest ih =>
      rcases settles.exists_next with ⟨next, moved, later⟩
      rcases ih later with ⟨first, others, cut, here, each⟩
      by_cases divides : t.kind = .comma ∧ depth = 0
      · rcases divides with ⟨comma, rfl⟩
        obtain rfl : next = 0 := by
          have level : nesting t = 0 := by simp [nesting, comma]
          omega
        refine ⟨[], first :: others, ?_, ⟨settles_nil_iff.mpr rfl, ?_⟩, ?_⟩
        · have same : pieces 0 (t :: rest) = [] :: pieces 0 rest := by simp [pieces, comma]
          exact same.trans (congrArg ([] :: ·) cut)
        · intro front comma begins
          simp at begins
        · intro piece member
          rcases List.mem_cons.mp member with rfl | listed
          · exact here
          · exact each piece listed
      · have stays : (t.kind == .comma && (depth : Int) == 0) = false := by simpa using divides
        refine ⟨t :: first, others, ?_, ⟨(settles_cons_iff moved).mpr here.1, ?_⟩, each⟩
        · rw [pieces, stays, if_neg Bool.false_ne_true, ← moved, cut]
          rfl
        · exact undivided_cons moved here.2 fun comma =>
            Nat.pos_of_ne_zero fun outside => divides ⟨comma, outside⟩

theorem Parted.onto {t : Token} {tokens first : List Token} {others : List (List Token)}
    (parted : Parted (first :: others) tokens) : Parted ((t :: first) :: others) (t :: tokens) := by
  cases parted with
  | single => exact .single _
  | cons _ comma _ tokens between later =>
      exact .cons (t :: first) comma others tokens between later

/-- Whatever the tokens are, they are their pieces, with a comma between neighbours. -/
theorem parted_pieces (depth : Int) (tokens : List Token) :
    Parted (pieces depth tokens) tokens := by
  induction tokens generalizing depth with
  | nil => exact .single []
  | cons t rest ih =>
      rw [pieces]
      split
      · rename_i divides
        have comma : t.kind = .comma := beq_iff_eq.mp (Bool.and_eq_true_iff.mp divides).1
        exact .cons [] t (pieces depth rest) rest comma (ih depth)
      · have later := ih (depth + nesting t)
        cases cut : pieces (depth + nesting t) rest with
        | nil =>
            rw [cut] at later
            cases later
        | cons first others =>
            rw [cut] at later
            exact later.onto

/-- Behind the tokens in front, the others are the groups in order, with a comma between
neighbours and perhaps further ones between and around them.  At each of these commas as many
parentheses are closed as were opened before. -/
inductive Scattered : List Token -> List (List Token) -> List Token -> Prop
  | nil (front : List Token) : Scattered front [] []
  | comma {front : List Token} {comma : Token} {groups : List (List Token)} {tokens : List Token}
      (isComma : comma.kind = .comma) (outside : closed front = opened front)
      (later : Scattered (front ++ [comma]) groups tokens) :
        Scattered front groups (comma :: tokens)
  | last (front group : List Token) : Scattered front [group] group
  | cons {front group : List Token} {comma : Token} {groups : List (List Token)}
      {tokens : List Token}
      (isComma : comma.kind = .comma) (outside : closed (front ++ group) = opened (front ++ group))
      (later : Scattered (front ++ group ++ [comma]) groups tokens) :
      Scattered front (group :: groups) (group ++ comma :: tokens)

theorem level_append {front tokens : List Token} (outside : closed front = opened front)
    (level : closed tokens = opened tokens) :
    closed (front ++ tokens) = opened (front ++ tokens) := by
  unfold closed opened at outside level ⊢
  rw [List.countP_append, List.countP_append, outside, level]

theorem level_comma {comma : Token} (isComma : comma.kind = .comma) :
    closed [comma] = opened [comma] := by
  simp [closed, opened, isComma]

theorem Parted.scattered {parts : List (List Token)} {tokens : List Token}
    (parted : Parted parts tokens) (each : forall part, part ∈ parts -> closed part = opened part)
    {front : List Token} (outside : closed front = opened front) :
    Scattered front (parts.filter fun part => !part.isEmpty) tokens := by
  induction parted generalizing front with
  | single part =>
      cases part with
      | nil => exact .nil front
      | cons t part => exact .last front (t :: part)
  | cons part comma parts tokens between _ ih =>
      have behind := level_append outside (each part List.mem_cons_self)
      have later := ih (fun other listed => each other (List.mem_cons_of_mem part listed))
        (level_append behind (level_comma between))
      cases part with
      | nil =>
          rw [List.append_nil] at later
          exact .comma between outside later
      | cons t part => exact .cons between behind later

/-- The tokens behind one index and before another. -/
def between (tokens : List Token) (first last : Nat) : List Token :=
  sliceBetween tokens (first + 1) last

theorem between_eq {tokens : List Token} {first last : Nat} (behind : first < last)
    (inside : last < tokens.length) :
    between tokens first last = (tokens.drop (first + 1)).take (last - (first + 1)) := by
  have start : slicePosition tokens.length ((first : Int) + 1) = first + 1 :=
    Nat.min_eq_left (show first + 1 ≤ tokens.length by omega)
  have stop : slicePosition tokens.length (last : Int) = last :=
    Nat.min_eq_left (Nat.le_of_lt inside)
  rw [between, sliceBetween, start, stop, List.drop_take]

theorem closingFrom?_natCast (tokens : List Token) (o : Nat) :
    closingFrom? tokens o = (closingIndex? tokens o).map Int.ofNat := by
  simp only [closingFrom?, closingIndex?, Int.natCast_nonneg, if_true, Int.toNat_natCast]
  cases closingOffset? 0 (tokens.drop o) with
  | none => rfl
  | some n => rfl

/-- The parenthesis that closes the one at an index is the first one that makes up for it, and it
is missing only where there is no such one.  What stands between the two is divided at its commas
into groups that close what they open and have all their commas inside of parentheses.  Nothing
of it is lost but commas between and around the groups, and these stand where no parenthesis is
open. -/
theorem closing_and_groups_fit {tokens : List Token} {o : Nat} {opening : Token}
    (there : tokens[o]? = some opening) (opens : opening.kind = .openParen) :
    closingFrom? tokens o = (closingIndex? tokens o).map Int.ofNat ∧
      (forall c, closingIndex? tokens o = some c ↔ Closes tokens o c) ∧
      (closingIndex? tokens o = none ↔
        forall k, o < k -> k < tokens.length ->
          opened (span tokens o k) ≠ closed (span tokens o k)) ∧
      forall c, closingIndex? tokens o = some c ->
        (forall group, group ∈ groups (between tokens o c) -> group ≠ [] ∧ Settles 0 group ∧
          Undivided 0 group) ∧
          Scattered [] (groups (between tokens o c)) (between tokens o c) := by
  refine ⟨closingFrom?_natCast tokens o, closingIndex?_eq_some_iff there opens,
    closingIndex?_eq_none_iff there opens, fun c found => ?_⟩
  have settles : Settles 0 (between tokens o c) := by
    have closes := (closingIndex?_eq_some_iff there opens c).mp found
    rw [closingIndex?_eq there opens, Option.map_eq_some_iff] at found
    rcases found with ⟨n, foundBehind, rfl⟩
    rw [between_eq closes.behind closes.inside, Nat.add_sub_cancel_left]
    exact settles_take 0 foundBehind
  have eachPiece : forall piece, piece ∈ pieces 0 (between tokens o c) -> Settles 0 piece ∧
      Undivided 0 piece := by
    rcases pieces_of_settles settles with ⟨first, others, cut, here, each⟩
    intro piece member
    rcases List.mem_cons.mp (cut ▸ member : piece ∈ first :: others) with rfl | listed
    · exact here
    · exact each piece listed
  constructor
  · intro group member
    rcases List.mem_filter.mp member with ⟨piece, filled⟩
    exact ⟨by simpa using filled, eachPiece group piece⟩
  · exact (parted_pieces 0 _).scattered (fun piece member => (eachPiece piece member).1.level) rfl

/-- Tokens with a group in parentheses of its own, a literal that shows a parenthesis and a place
without a group: `x ((a, 'b)'), , c) y`. -/
def nested : List Token :=
  [(TokenKind.identifier, "x"), (.openParen, "("), (.openParen, "("), (.identifier, "a"),
    (.comma, ","), (.string, "'b)'"), (.closeParen, ")"), (.comma, ","), (.comma, ","),
    (.identifier, "c"), (.closeParen, ")"), (.identifier, "y")].map fun form =>
      ⟨form.1, form.2.toList, .start⟩

theorem closing_and_groups_of_nested :
    closingIndex? nested 1 = some 10 ∧ Closes nested 1 10 ∧
      (groups (between nested 1 10)).map (List.map value) =
        [["(".toList, "a".toList, ",".toList, "'b)'".toList, ")".toList], ["c".toList]] ∧
      Scattered [] (groups (between nested 1 10)) (between nested 1 10) := by
  have fit := @closing_and_groups_fit nested 1 ⟨.openParen, ['('], .start⟩ rfl rfl
  have found : closingIndex? nested 1 = some 10 := by decide
  exact ⟨found, (fit.2.1 10).mp found, by decide, (fit.2.2.2 10 found).2⟩

end Token
end SchemaAtlas
