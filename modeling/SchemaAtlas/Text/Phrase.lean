import SchemaAtlas.Text.Blank
import SchemaAtlas.Text.Case
import SchemaAtlas.Text.Word

namespace SchemaAtlas

/-!
Phrases: fixed forms that stand at the beginning of a text.

A phrase may stand there in several ways, because a part of it may stop earlier or later.  It is
therefore the list of all its readings, the preferred reading first, and each reading is a value
with the text that follows.  Sequencing keeps the order: the readings of the first part decide
before those of the second.  A phrase that needs only one reading takes the head of the list.
-/

/-- The readings of a form at the beginning of a text, the preferred one first. -/
def Phrase (α : Type) : Type :=
  Text -> List (α × Text)

namespace Phrase

variable {α β : Type}

/-- The phrase that reads nothing and gives one value. -/
def give (a : α) : Phrase α :=
  fun t => [(a, t)]

/-- One phrase, then the phrase that its value selects. -/
def andThen (p : Phrase α) (q : α -> Phrase β) : Phrase β :=
  fun t => (p t).flatMap fun reading => q reading.1 reading.2

instance : Monad Phrase where
  pure := give
  bind := andThen

/-- Either of two phrases, the first one preferred. -/
def either (p q : Phrase α) : Phrase α :=
  fun t => p t ++ q t

/-- A phrase that may be left out; its presence is preferred. -/
def optional (p : Phrase Unit) : Phrase Unit :=
  either p (give ())

/-- A phrase that may be left out, with its value where it is present. -/
def optionally (p : Phrase α) : Phrase (Option α) :=
  either (fun t => (p t).map fun reading => (some reading.1, reading.2)) (give none)

def charWhere (test : Char -> Bool) : Phrase Char
  | c :: rest => if test c then [(c, rest)] else []
  | [] => []

def char (c : Char) : Phrase Unit := do
  let _ <- charWhere (· == c)
  give ()

/-- A word of ASCII letters and signs, in any mixture of cases. -/
def letters : Text -> Phrase Unit
  | [] => give ()
  | w :: ws => do
    let _ <- charWhere (Text.sameLetter w)
    letters ws

/-- A run of white space, which may be empty, taken whole. -/
def blanks : Phrase Unit :=
  fun t => [((), Text.trimStart t)]

/-- A run of white space that is not empty, taken whole. -/
def blanks1 : Phrase Unit := do
  let _ <- charWhere Text.isBlank
  blanks

/-- A keyword and the white space after it. -/
def keyword (word : Text) : Phrase Unit := do
  letters word
  blanks1

def atEnd : Phrase Unit
  | [] => [((), [])]
  | _ :: _ => []

/-- No word goes on here: the text ends, or its next character belongs to no word. -/
def wordEnd : Phrase Unit
  | [] => [((), [])]
  | c :: rest => if Text.isWordChar c then [] else [((), c :: rest)]

/-- Every non-empty beginning of the longest run of matching characters, the longest one first. -/
def runWhere (test : Char -> Bool) : Phrase Text :=
  fun t =>
    ((List.range (t.takeWhile test).length).reverse).map fun n => (t.take (n + 1), t.drop (n + 1))

/-- A non-empty text between an opening character and the nearest closing one,
which stay out of the value. -/
def enclosed (opening closing : Char) : Phrase Text
  | [] => []
  | c :: rest =>
    if c == opening then
      match rest.takeWhile (· != closing), rest.dropWhile (· != closing) with
      | d :: ds, _ :: after => [(d :: ds, after)]
      | _, _ => []
    else []

/-- A phrase repeated any number of times, more repetitions preferred.  A repetition that reads
nothing is not continued. -/
def repeated (p : Phrase Unit) (t : Text) : List (Unit × Text) :=
  ((p t).flatMap fun reading =>
    if _h : reading.2.length < t.length then repeated p reading.2 else []) ++ [((), t)]
termination_by t.length
decreasing_by exact _h

/-- The text that a phrase takes up, together with its value. -/
def spanned (p : Phrase α) : Phrase (Text × α) :=
  fun t => (p t).map fun reading =>
    ((t.take (t.length - reading.2.length), reading.1), reading.2)

def value? (p : Phrase α) (t : Text) : Option α :=
  (p t).head?.map Prod.fst

/-- The text has the form of the phrase at its beginning. -/
def holds (p : Phrase α) (t : Text) : Bool :=
  !(p t).isEmpty

/-- The preferred reading at the first place of the text where the phrase stands. -/
def search? (p : Phrase α) : Text -> Option (α × Text)
  | [] => (p []).head?
  | c :: rest =>
    match (p (c :: rest)).head? with
    | some reading => some reading
    | none => search? p rest

/-- A phrase stands somewhere in the text, where its form may depend on the character before it. -/
def occursAfter (p : Option Char -> Phrase α) : Option Char -> Text -> Bool
  | before, [] => holds (p before) []
  | before, c :: rest => holds (p before) (c :: rest) || occursAfter p (some c) rest

/-- The text with every place where the phrase stands replaced.  Places are found from the left
and do not overlap; the form may depend on the character before it. -/
def replaceAfter (p : Option Char -> Phrase α) (replacement : Text) (before : Option Char)
    (t : Text) : Text :=
  match t with
  | [] => []
  | c :: rest =>
    match (p before (c :: rest)).head? with
    | some reading =>
      if _h : reading.2.length < (c :: rest).length then
        replacement ++
          replaceAfter p replacement
            ((c :: rest)[(c :: rest).length - reading.2.length - 1]?) reading.2
      else c :: replaceAfter p replacement (some c) rest
    | none => c :: replaceAfter p replacement (some c) rest
termination_by t.length
decreasing_by
  · exact _h
  · exact Nat.lt_succ_self _
  · exact Nat.lt_succ_self _

/-- The text with every place where the phrase stands replaced. -/
def replaceAll (p : Option Char -> Phrase α) (replacement t : Text) : Text :=
  replaceAfter p replacement none t

/-- No word reaches up to here from before. -/
def wordStart (before : Option Char) : Phrase Unit :=
  fun t => if before.any Text.isWordChar then [] else [((), t)]

end Phrase
end SchemaAtlas
