import SchemaAtlas.Token.Lexeme

namespace SchemaAtlas
namespace Token

/-!
The tokens of a text.  White space and comments between them are left out, and one token at the end
marks the end of the text.
-/

/-- Whether bare words keep their case. -/
inductive CaseRule where
  | keep
  | unify
deriving DecidableEq

/-- The text that a token shows.  Where cases are unified, names are written in lower case and
words with a meaning in upper case. -/
def shown (rule : CaseRule) (kind : TokenKind) (value : Text) : Text :=
  match rule with
  | .keep => value
  | .unify =>
    if kind == .keyword || kind == .typeName then Text.upper value
    else if kind == .identifier then Text.lower value
    else value

/-- The token that a piece of text gives, if it gives one. -/
def ofLexeme? (rule : CaseRule) (place : Place) (kind : LexemeKind) (value : Text) : Option Token :=
  match kind with
  | .comment => none
  | .blank => none
  | .word => some ⟨wordKind value, shown rule (wordKind value) value, place⟩
  | .token k => some ⟨k, shown rule k value, place⟩

/-- The tokens of a text that begins at a place. -/
def scanFrom (rule : CaseRule) (place : Place) (t : Text) : List Token :=
  match t with
  | [] => [⟨.endOfText, [], place⟩]
  | c :: rest =>
    let piece := Lexeme.cut c rest
    let value := c :: rest.take piece.2
    (ofLexeme? rule place piece.1 value).toList
      ++ scanFrom rule (place.after value) (rest.drop piece.2)
termination_by t.length

def scan (t : Text) (rule : CaseRule) : List Token :=
  scanFrom rule Place.start t

end Token
end SchemaAtlas
