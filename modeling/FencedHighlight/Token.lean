import FencedHighlight.Text

namespace FencedHighlight

/-!
Token trees.

Tokenizing cuts a text into tokens.  A token is plain text, a leaf with the
content that a rule has matched, or a composite whose content has been cut into
tokens again.  The leaves of a tree, in order, make up the text.
-/

/-- A token. -/
inductive Token where
  /-- Text that no rule has claimed. -/
  | text (content : Text)
  | leaf (kind : String) (synonym : Option String) (content : Text)
  | composite (kind : String) (synonym : Option String) (children : List Token)

namespace Token

def textTag : String :=
  "text"

/-- The name of the rule that produced the token. -/
def kind : Token -> String
  | text _ => textTag
  | leaf kind _ _ | composite kind _ _ => kind

/-- The tag by which the token is styled: the alias of its rule, if there is
one, or else the name. -/
def tag : Token -> String
  | text _ => textTag
  | leaf kind synonym _ | composite kind synonym _ => synonym.getD kind

def isText : Token -> Bool
  | text _ => true
  | _ => false

def children : Token -> List Token
  | composite _ _ children => children
  | _ => []

/-- The text that a token holds itself. -/
def ownText : Token -> Text
  | text content | leaf _ _ content => content
  | composite _ _ _ => []

mutual

/-- The number of steps that it takes to visit a token. -/
def visits : Token -> Nat
  | text _ | leaf _ _ _ => 1
  | composite _ _ children => visitsAll children + 2

/-- The number of steps that it takes to visit some tokens. -/
def visitsAll : List Token -> Nat
  | [] => 0
  | token :: rest => token.visits + visitsAll rest

end

theorem visitsAll_append (left right : List Token) :
    visitsAll (left ++ right) = visitsAll left + visitsAll right := by
  induction left with
  | nil => simp [visitsAll]
  | cons token rest ih => simp [visitsAll, ih, Nat.add_assoc]

/-- The plain texts and leaves among some tokens and inside them, in order.
The list holds what is still to be visited; a composite on top of it gives way
to its children. -/
def leaves : List Token -> List Token
  | [] => []
  | text content :: rest => text content :: leaves rest
  | leaf kind synonym content :: rest => leaf kind synonym content :: leaves rest
  | composite _ _ children :: rest => leaves (children ++ rest)
termination_by tokens => visitsAll tokens
decreasing_by
  all_goals simp only [visitsAll, visits, visitsAll_append]; omega

def textOf (tokens : List Token) : Text :=
  (leaves tokens).flatMap ownText

def sizeOf (tokens : List Token) : Nat :=
  (leaves tokens).foldr (fun leaf total => Text.size leaf.ownText + total) 0

/-- Put plain text on top of tokens, the newest of which comes first.  It joins
plain text that is already there, and nothing is put for an empty text. -/
def pushText (tokens : List Token) (content : Text) : List Token :=
  match content, tokens with
  | [], _ => tokens
  | _ :: _, text before :: rest => text (before ++ content) :: rest
  | _ :: _, _ => text content :: tokens

end Token

end FencedHighlight
