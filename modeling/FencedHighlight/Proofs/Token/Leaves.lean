import FencedHighlight.Token

namespace FencedHighlight
namespace Token

/-!
What token trees cover.

The text of a tree is that of its leaves in order, and it grows token by token:
text and leaves of a sequence of tokens are those of its parts.  Statements
about all depths of a tree speak of its lists of siblings, which are the
children of its composites and the list of its topmost tokens.
-/

@[simp] theorem leaves_nil : leaves [] = [] := by
  rw [leaves]

theorem leaves_append (left right : List Token) :
    leaves (left ++ right) = leaves left ++ leaves right := by
  fun_induction leaves left with
  | case1 => rfl
  | case2 content rest ih => rw [List.cons_append, leaves, ih, List.cons_append]
  | case3 kind synonym content rest ih => rw [List.cons_append, leaves, ih, List.cons_append]
  | case4 kind synonym children rest ih =>
      rw [List.cons_append, leaves, ← List.append_assoc, ih]

@[simp] theorem leaves_text (content : Text) : leaves [text content] = [text content] := by
  rw [leaves, leaves_nil]

@[simp] theorem leaves_leaf (kind : String) (synonym : Option String) (content : Text) :
    leaves [leaf kind synonym content] = [leaf kind synonym content] := by
  rw [leaves, leaves_nil]

@[simp] theorem leaves_composite (kind : String) (synonym : Option String)
    (children : List Token) : leaves [composite kind synonym children] = leaves children := by
  rw [leaves, List.append_nil]

@[simp] theorem textOf_nil : textOf [] = [] := by
  rw [textOf, leaves_nil]
  rfl

@[simp] theorem textOf_append (left right : List Token) :
    textOf (left ++ right) = textOf left ++ textOf right := by
  rw [textOf, leaves_append, List.flatMap_append]
  rfl

theorem textOf_cons (token : Token) (rest : List Token) :
    textOf (token :: rest) = textOf [token] ++ textOf rest :=
  textOf_append [token] rest

@[simp] theorem textOf_text (content : Text) : textOf [text content] = content := by
  rw [textOf, leaves_text, List.flatMap_singleton]
  rfl

@[simp] theorem textOf_leaf (kind : String) (synonym : Option String) (content : Text) :
    textOf [leaf kind synonym content] = content := by
  rw [textOf, leaves_leaf, List.flatMap_singleton]
  rfl

@[simp] theorem textOf_composite (kind : String) (synonym : Option String)
    (children : List Token) : textOf [composite kind synonym children] = textOf children := by
  rw [textOf, leaves_composite]
  rfl

/-- The number of bytes that tokens cover is the size of their text. -/
theorem sizeOf_eq_size_textOf (tokens : List Token) :
    sizeOf tokens = Text.size (textOf tokens) := by
  unfold sizeOf textOf
  induction leaves tokens with
  | nil => rfl
  | cons leaf rest ih =>
      rw [List.foldr_cons, List.flatMap_cons, Text.size_append, ih]

theorem sizeOf_append (left right : List Token) :
    sizeOf (left ++ right) = sizeOf left + sizeOf right := by
  rw [sizeOf_eq_size_textOf, sizeOf_eq_size_textOf, sizeOf_eq_size_textOf, textOf_append,
    Text.size_append]

theorem sizeOf_cons (token : Token) (rest : List Token) :
    sizeOf (token :: rest) = sizeOf [token] + sizeOf rest :=
  sizeOf_append [token] rest

@[simp] theorem sizeOf_nil : sizeOf [] = 0 := by
  rw [sizeOf_eq_size_textOf, textOf_nil, Text.size_nil]

@[simp] theorem sizeOf_text (content : Text) : sizeOf [text content] = Text.size content := by
  rw [sizeOf_eq_size_textOf, textOf_text]

@[simp] theorem sizeOf_leaf (kind : String) (synonym : Option String) (content : Text) :
    sizeOf [leaf kind synonym content] = Text.size content := by
  rw [sizeOf_eq_size_textOf, textOf_leaf]

@[simp] theorem sizeOf_composite (kind : String) (synonym : Option String)
    (children : List Token) : sizeOf [composite kind synonym children] = sizeOf children := by
  rw [sizeOf_eq_size_textOf, sizeOf_eq_size_textOf, textOf_composite]

/-- Plain text is put on top of tokens that are not plain text. -/
theorem pushText_of_apart {tokens : List Token} {content : Text} (present : content ≠ [])
    (apart : ∀ token ∈ tokens.head?, token.isText = false) :
    pushText tokens content = .text content :: tokens := by
  cases content with
  | nil => exact absurd rfl present
  | cons char content =>
      cases tokens with
      | nil => rfl
      | cons token tokens =>
          have other := apart token rfl
          cases token with
          | text before => cases other
          | leaf kind synonym before => rfl
          | composite kind synonym children => rfl

/-- The lists of siblings in a forest: its roots, and the children of every
composite in it. -/
inductive Siblings (roots : List Token) : List Token -> Prop where
  | roots : Siblings roots roots
  | children {siblings children : List Token} {kind : String} {synonym : Option String}
      (outer : Siblings roots siblings)
      (member : composite kind synonym children ∈ siblings) : Siblings roots children

end Token
end FencedHighlight
