import AlertRelay.Template.Tree

/-!
The grammar of templates. It is given over the tokens of a source, each action with its two
delimiters, and says which tree the tokens stand for. The number that goes with a phrase counts the
blocks and parentheses around it.
-/

namespace AlertRelay.Template

/-- A text, a delimiter, or an item between two delimiters. A closing delimiter tells where it
ends. -/
inductive Token where
  | text (pos : Nat) (content : List Char)
  | opening (pos : Nat)
  | item (t : Placed)
  | closing (pos stop : Nat)
  deriving DecidableEq, Repr

def Token.pos : Token → Nat
  | .text pos _ => pos
  | .opening pos => pos
  | .item t => t.pos
  | .closing pos _ => pos

def Piece.tokens : Piece → List Token
  | .text pos content => [.text pos content]
  | .action a => .opening a.pos :: (a.items.map .item ++ [.closing a.close a.stop])

def tokens (ps : List Piece) : List Token := ps.flatMap Piece.tokens

/-- A word between two delimiters. -/
def Token.word (w : String) (pos : Nat) : Token := .item ⟨.word w, pos⟩

mutual

inductive IsOperand : Nat → List Placed → Operand → Prop
  | field {d pos root names} : IsOperand d [⟨.field root names, pos⟩] (.field root names)
  | dot {d pos} : IsOperand d [⟨.dot, pos⟩] .dot
  | constant {d pos c} : IsOperand d [⟨.constant c, pos⟩] (.constant c)
  | function {d pos w f} : Builtin.ofName? w = some f → IsOperand d [⟨.word w, pos⟩] (.function f)
  | group {d l r items p} : d < depthLimit → IsPipeline (d + 1) items p →
      IsOperand d (⟨.leftParen, l⟩ :: (items ++ [⟨.rightParen, r⟩])) (.group p)

/-- One operand or more. -/
inductive IsCommand : Nat → List Placed → Command → Prop
  | one {d items o} : IsOperand d items o → IsCommand d items (.mk o [])
  | more {d items items' o os o'} : IsCommand d items (.mk o os) → IsOperand d items' o' →
      IsCommand d (items ++ items') (.mk o (os ++ [o']))

/-- One command or more, with pipes between them. -/
inductive IsPipeline : Nat → List Placed → Pipeline → Prop
  | one {d items c} : IsCommand d items c → IsPipeline d items (.mk c [])
  | more {d items items' pos c cs c'} : IsPipeline d items (.mk c cs) → IsCommand d items' c' →
      IsPipeline d (items ++ ⟨.pipe, pos⟩ :: items') (.mk c (cs ++ [c']))

end

/-- The delimiters and the word that end a block. -/
inductive IsEnd : List Token → Prop
  | mk {pos wordPos close stop} :
      IsEnd [.opening pos, .word "end" wordPos, .closing close stop]

variable (source : List Char)

mutual

inductive IsTemplate : Nat → List Token → List Node → Prop
  | nil {d} : IsTemplate d [] []
  | text {d pos content ts ns} : IsTemplate d ts ns →
      IsTemplate d (.text pos content :: ts) (.text content :: ns)
  | action {d pos items close stop p ts ns} : IsPipeline d items p → IsTemplate d ts ns →
      IsTemplate d (.opening pos :: (items.map .item ++ .closing close stop :: ts))
        (.action ⟨pos, Growth.excerpt source pos stop⟩ p :: ns)
  | block {d k pos wordPos rest n ts ns} : d < depthLimit → IsRest k (d + 1) pos rest n →
      IsTemplate d ts ns →
      IsTemplate d (.opening pos :: .word k.name wordPos :: (rest ++ ts)) (n :: ns)

/-- A block after its keyword. Its excerpt starts at `pos`. -/
inductive IsRest : Keyword → Nat → Nat → List Token → Node → Prop
  | mk {k d pos items close stop p ts ns tail otherwise} : IsPipeline d items p →
      IsTemplate d ts ns → IsTail k d tail otherwise →
      IsRest k d pos (items.map .item ++ .closing close stop :: (ts ++ tail))
        (.block k ⟨pos, Growth.excerpt source pos stop⟩ p ns otherwise)

/-- A block after its body, with the nodes of its `else` part. A block that goes on from an `else`
is nested in the one around it, and shares its end. -/
inductive IsTail : Keyword → Nat → List Token → List Node → Prop
  | done {k d ts} : IsEnd ts → IsTail k d ts []
  | otherwise {k d pos wordPos close stop ts ns tail} : IsTemplate d ts ns → IsEnd tail →
      IsTail k d (.opening pos :: .word "else" wordPos :: .closing close stop :: (ts ++ tail)) ns
  | chain {k d pos elsePos wordPos rest n} : k.chains = true → d < depthLimit →
      IsRest k (d + 1) elsePos rest n →
      IsTail k d (.opening pos :: .word "else" elsePos :: .word k.name wordPos :: rest) [n]

end

end AlertRelay.Template
