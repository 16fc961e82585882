import Stencil.Proofs.Tree.Shape
/-!
# Trees that are alike

Two rows of trees are alike when they have the same nodes in the same places over tokens that
correspond, outside of some holes: rows of neighbours that are not compared any further. Rows that
are alike may be joined, and rows of tokens are alike if the tokens correspond one by one.
-/

namespace Stencil

/-- The same trees side by side over corresponding tokens, with holes between them. -/
inductive Alike (token : Nat → Nat → Prop) (hole : List Shape → List Shape → Prop) :
    List Shape → List Shape → Prop where
  | nil : Alike token hole [] []
  | token {left right : Nat} {lefts rights : List Shape} (same : token left right)
      (rest : Alike token hole lefts rights) :
      Alike token hole (.token left :: lefts) (.token right :: rights)
  | node (kind : NodeKind) {left right lefts rights : List Shape}
      (children : Alike token hole left right) (rest : Alike token hole lefts rights) :
      Alike token hole (.node kind left :: lefts) (.node kind right :: rights)
  | hole {left right lefts rights : List Shape} (inside : hole left right)
      (rest : Alike token hole lefts rights) :
      Alike token hole (left ++ lefts) (right ++ rights)

section

variable {token wider : Nat → Nat → Prop} {hole : List Shape → List Shape → Prop}
  {left right lefts rights : List Shape}

/-- Rows that are alike one after another are alike. -/
theorem Alike.append (first : Alike token hole left right)
    (second : Alike token hole lefts rights) :
    Alike token hole (left ++ lefts) (right ++ rights) := by
  induction first with
  | nil => exact second
  | token same _ ih => exact .token same ih
  | node kind children _ _ ih => exact .node kind children ih
  | hole inside _ ih =>
    rw [List.append_assoc, List.append_assoc]
    exact .hole inside ih

/-- Nodes of one kind over rows that are alike are alike. -/
theorem Alike.beneath (children : Alike token hole left right) (kind : NodeKind) :
    Alike token hole [.node kind left] [.node kind right] := .node kind children .nil

/-- A hole by itself is alike. -/
theorem alike_hole (inside : hole left right) : Alike token hole left right := by
  have whole : Alike token hole (left ++ []) (right ++ []) := .hole inside .nil
  rwa [List.append_nil, List.append_nil] at whole

/-- Rows are alike all the more where more tokens correspond. -/
theorem Alike.mono (more : ∀ i j, token i j → wider i j) (alike : Alike token hole left right) :
    Alike wider hole left right := by
  induction alike with
  | nil => exact .nil
  | token same _ ih => exact .token (more _ _ same) ih
  | node kind _ _ within ih => exact .node kind within ih
  | hole inside _ ih => exact .hole inside ih

/-- Rows of tokens that correspond one by one are alike. -/
theorem alike_tokens {first second : Nat} (count : Nat)
    (same : ∀ index < count, token (first + index) (second + index)) :
    Alike token hole (Shape.tokens first count) (Shape.tokens second count) := by
  induction count with
  | zero => exact .nil
  | succ count ih =>
    rw [← Shape.tokens_append first count 1, ← Shape.tokens_append second count 1]
    have last : Alike token hole [.token (first + count)] [.token (second + count)] :=
      .token (same count (Nat.lt_succ_self count)) .nil
    exact (ih fun index below => same index (Nat.lt_succ_of_lt below)).append last

end

end Stencil
