import AlertRelay.Proofs.Template.Grammar
import AlertRelay.Proofs.Template.PieceReading
import AlertRelay.Template.Run

/-!
Positions count from the start of a source. With other characters before it, a source is read as it
is alone, only everything stands further on, and so does the fault that a run ends with.
-/

namespace AlertRelay.Template

def Placed.shift (k : Nat) (t : Placed) : Placed := ⟨t.item, k + t.pos⟩

def Body.shift (k : Nat) (b : Body) : Body :=
  ⟨b.comment, b.items.map (Placed.shift k), k + b.close, k + b.stop, b.trim, b.rest⟩

def Piece.shift (k : Nat) : Piece → Piece
  | .text pos content => .text (k + pos) content
  | .action a => .action ⟨k + a.pos, a.items.map (Placed.shift k), k + a.close, k + a.stop⟩

def Token.shift (k : Nat) : Token → Token
  | .text pos content => .text (k + pos) content
  | .opening pos => .opening (k + pos)
  | .item t => .item (t.shift k)
  | .closing pos stop => .closing (k + pos) (k + stop)

def Site.shift (k : Nat) (s : Site) : Site := ⟨k + s.pos, s.excerpt⟩

mutual

def Node.shift (k : Nat) : Node → Node
  | .text content => .text content
  | .action site p => .action (site.shift k) p
  | .block keyword site p body otherwise =>
    .block keyword (site.shift k) p (shiftNodes k body) (shiftNodes k otherwise)

def shiftNodes (k : Nat) : List Node → List Node
  | [] => []
  | n :: rest => n.shift k :: shiftNodes k rest

end

def Fault.shift (k : Nat) : Fault → Fault
  | .at site cause => .at (site.shift k) cause
  | .limit e => .limit e

def Run.shift (k : Nat) (r : Run) : Run := ⟨r.text, r.fault.map (Fault.shift k)⟩

theorem Token.shift_zero (t : Token) : t.shift 0 = t := by
  cases t <;> simp [Token.shift, Placed.shift]

mutual

theorem Node.shift_zero (n : Node) : n.shift 0 = n :=
  match n with
  | .text _ => rfl
  | .action site p => by rw [Node.shift, Site.shift, Nat.zero_add]
  | .block keyword site p body otherwise => by
    rw [Node.shift, Site.shift, Nat.zero_add, shiftNodes_zero, shiftNodes_zero]

theorem shiftNodes_zero (ns : List Node) : shiftNodes 0 ns = ns :=
  match ns with
  | [] => rfl
  | n :: rest => by rw [shiftNodes, n.shift_zero, shiftNodes_zero]

end

/-!
What is cut from a source.
-/

theorem ReadsItems.shift {pos : Nat} {cs : List Char} {b : Body} (h : ReadsItems pos cs b)
    (k : Nat) : ReadsItems (k + pos) cs (b.shift k) := by
  induction h with
  | @close pos lead trim rest hl =>
    have hread : ReadsItems (k + pos) (lead ++ (closer trim ++ rest)) _ := .close hl
    simpa only [Body.shift, List.map_nil, Nat.add_assoc] using hread
  | @item pos lead c r item n b hl hi _ ih =>
    have hnext : ReadsItems (k + pos + lead.length + n + 1) (r.drop n) (b.shift k) := by
      simpa only [Nat.add_assoc] using ih
    have hread := ReadsItems.item hl hi hnext
    simpa only [Body.shift, Body.push, List.map_cons, Placed.shift, Nat.add_assoc] using hread

theorem ReadsBody.shift {pos : Nat} {cs : List Char} {b : Body} (h : ReadsBody pos cs b) (k : Nat) :
    ReadsBody (k + pos) cs (b.shift k) := by
  cases h with
  | items h => exact .items (h.shift k)
  | @comment lead body trail trim rest hl hn ht =>
    have hread : ReadsBody (k + pos) _ _ := @ReadsBody.comment _ _ _ _ _ rest hl hn ht
    simpa only [Body.shift, List.map_nil, Nat.add_assoc] using hread

theorem Body.pieces_shift (b : Body) (k start : Nat) :
    (b.shift k).pieces (k + start) = (b.pieces start).map (Piece.shift k) := by
  unfold Body.pieces
  cases hc : b.comment with
  | false => rw [if_neg (by simp [Body.shift, hc]), if_neg (by simp)]; rfl
  | true => rw [if_pos (by simp [Body.shift, hc]), if_pos rfl]; rfl

theorem textPiece_shift (k pos : Nat) (cs : List Char) :
    textPiece (k + pos) cs = (textPiece pos cs).map (Piece.shift k) := by
  cases cs <;> rfl

theorem ReadsPieces.shift {pos : Nat} {cs : List Char} {ps : List Piece} (h : ReadsPieces pos cs ps)
    (k : Nat) : ReadsPieces (k + pos) cs (ps.map (Piece.shift k)) := by
  induction h with
  | @last pos cs hn =>
    rw [← textPiece_shift]
    exact .last hn
  | @more pos text before inner b blanks rest ps hn ht hb hr hd _ ih =>
    have hbody :
        ReadsBody (k + pos + text.length + 2 + (dash before).length) inner (b.shift k) := by
      simpa only [Nat.add_assoc] using hb.shift k
    have hrest : ReadsPieces ((b.shift k).stop + blanks.length) rest (ps.map (Piece.shift k)) := by
      simpa only [Body.shift, Nat.add_assoc] using ih
    rw [List.map_append, List.map_append, ← textPiece_shift, ← Body.pieces_shift, ← Nat.add_assoc]
    exact .more hn ht hbody hr hd hrest

theorem tokens_shift (k : Nat) (ps : List Piece) :
    tokens (ps.map (Piece.shift k)) = (tokens ps).map (Token.shift k) := by
  have piece (p : Piece) : (p.shift k).tokens = p.tokens.map (Token.shift k) := by
    cases p with
    | text pos content => rfl
    | action a =>
      simp only [Piece.shift, Piece.tokens, List.map_cons, List.map_append, List.map_map,
        List.map_nil]
      rfl
  simp only [tokens, List.flatMap_map, piece, List.map_flatMap]

/-!
The tree.
-/

mutual

theorem IsOperand.shift {d : Nat} {items : List Placed} {o : Operand} (h : IsOperand d items o)
    (k : Nat) : IsOperand d (items.map (Placed.shift k)) o :=
  match h with
  | .field => .field
  | .dot => .dot
  | .constant => .constant
  | .function hf => .function hf
  | .group hlt hp => by
    rw [List.map_cons, List.map_append]
    exact .group hlt (hp.shift k)

theorem IsCommand.shift {d : Nat} {items : List Placed} {c : Command} (h : IsCommand d items c)
    (k : Nat) : IsCommand d (items.map (Placed.shift k)) c :=
  match h with
  | .one ho => .one (ho.shift k)
  | .more hc ho => by
    rw [List.map_append]
    exact .more (hc.shift k) (ho.shift k)

theorem IsPipeline.shift {d : Nat} {items : List Placed} {p : Pipeline} (h : IsPipeline d items p)
    (k : Nat) : IsPipeline d (items.map (Placed.shift k)) p :=
  match h with
  | .one hc => .one (hc.shift k)
  | .more hp hc => by
    rw [List.map_append, List.map_cons]
    exact .more (hp.shift k) (hc.shift k)

end

/-- The excerpts that some tokens of one source can have are those of the shifted tokens of
another. -/
def SameExcerpts (source source' : List Char) (k : Nat) (ts : List Token) : Prop :=
  ∀ close stop, .closing close stop ∈ ts → ∀ pos,
    Growth.excerpt source' (k + pos) (k + stop) = Growth.excerpt source pos stop

theorem SameExcerpts.mono {source source' : List Char} {k : Nat} {ts us : List Token}
    (h : SameExcerpts source source' k ts) (hs : ∀ t ∈ us, t ∈ ts) :
    SameExcerpts source source' k us :=
  fun close stop hm => h close stop (hs _ hm)

theorem map_item_shift (k : Nat) (items : List Placed) :
    (items.map Token.item).map (Token.shift k) = (items.map (Placed.shift k)).map Token.item := by
  rw [List.map_map, List.map_map]
  rfl

theorem IsEnd.shift {ts : List Token} (h : IsEnd ts) (k : Nat) :
    IsEnd (ts.map (Token.shift k)) := by
  cases h
  exact .mk

variable {source source' : List Char}

mutual

theorem IsTemplate.shift {d k : Nat} {ts : List Token} {ns : List Node}
    (h : IsTemplate source d ts ns) (hx : SameExcerpts source source' k ts) :
    IsTemplate source' d (ts.map (Token.shift k)) (shiftNodes k ns) :=
  match h with
  | .nil => .nil
  | .text ht => .text (ht.shift (hx.mono (by simp +contextual)))
  | @IsTemplate.action _ _ pos items close stop _ _ _ hp ht => by
    have hs := hx close stop (by simp) pos
    have := ht.shift (hx.mono (by simp +contextual))
    rw [List.map_cons, List.map_append, map_item_shift, List.map_cons, shiftNodes, Node.shift,
      Site.shift, ← hs]
    exact .action (hp.shift k) this
  | .block hlt hr ht => by
    have hr := hr.shift (hx.mono (by simp +contextual))
    have ht := ht.shift (hx.mono (by simp +contextual))
    rw [List.map_cons, List.map_cons, List.map_append]
    exact .block hlt hr ht

theorem IsRest.shift {kw : Keyword} {d k pos : Nat} {ts : List Token} {n : Node}
    (h : IsRest source kw d pos ts n) (hx : SameExcerpts source source' k ts) :
    IsRest source' kw d (k + pos) (ts.map (Token.shift k)) (n.shift k) :=
  match h with
  | @IsRest.mk _ _ _ _ items close stop _ _ _ _ _ hp ht htail => by
    have hs := hx close stop (by simp) pos
    have ht := ht.shift (hx.mono (by simp +contextual))
    have htail := htail.shift (hx.mono (by simp +contextual))
    rw [List.map_append, map_item_shift, List.map_cons, List.map_append, Node.shift, Site.shift,
      ← hs]
    exact .mk (hp.shift k) ht htail

theorem IsTail.shift {kw : Keyword} {d k : Nat} {ts : List Token} {ns : List Node}
    (h : IsTail source kw d ts ns) (hx : SameExcerpts source source' k ts) :
    IsTail source' kw d (ts.map (Token.shift k)) (shiftNodes k ns) :=
  match h with
  | .done he => .done (he.shift k)
  | .otherwise ht he => by
    have ht := ht.shift (hx.mono (by simp +contextual))
    rw [List.map_cons, List.map_cons, List.map_cons, List.map_append]
    exact .otherwise ht (he.shift k)
  | .chain hk hlt hr => by
    have hr := hr.shift (hx.mono (by simp +contextual))
    exact .chain hk hlt hr

end

/-!
The run.
-/

theorem Run.append_shift (a b : Run) (k : Nat) :
    (a.append b).shift k = (a.shift k).append (b.shift k) := by
  obtain ⟨text, fault⟩ := a
  cases fault <;> rfl

theorem Run.concat_shift (rs : List Run) (k : Nat) :
    (Run.concat rs).shift k = Run.concat (rs.map (Run.shift k)) := by
  induction rs with
  | nil => rfl
  | cons r rs ih => rw [Run.concat, Run.append_shift, ih, List.map_cons, Run.concat]

theorem withValue_shift (site : Site) (v : Except Cause Value) (next : Value → Run) (k : Nat) :
    (withValue site v next).shift k = withValue (site.shift k) v fun v => (next v).shift k := by
  cases v <;> rfl

theorem writeValue_shift (v : Value) (k : Nat) : (writeValue v).shift k = writeValue v := by
  unfold writeValue
  cases v.print <;> rfl

theorem elements_shift (site : Site) (v : Value) (k : Nat) :
    elements (site.shift k) v = (elements site v).mapError (Fault.shift k) := by
  cases v with
  | nil | missing | list _ | map _ | labels _ => rfl
  | bool _ | int _ | float _ | text _ | bytes _ | record _ _ _ _ _ =>
    unfold elements
    dsimp only
    split <;> rfl

mutual

theorem Node.run_shift (root dot : Value) (k : Nat) (n : Node) :
    (n.shift k).run root dot = (n.run root dot).shift k :=
  match n with
  | .text content => rfl
  | .action site p => by
    rw [Node.shift, Node.run, Node.run, withValue_shift]
    simp only [writeValue_shift]
  | .block keyword site p body otherwise => by
    rw [Node.shift, Node.run, Node.run, withValue_shift]
    congr 1
    funext v
    have hbody := runNodes_shift root dot k body
    have hwith := runNodes_shift root v k body
    have hotherwise := runNodes_shift root dot k otherwise
    cases keyword with
    | cond =>
      dsimp only
      rw [hbody, hotherwise]
      split <;> rfl
    | «with» =>
      dsimp only
      rw [hwith, hotherwise]
      split <;> rfl
    | range =>
      dsimp only
      rw [elements_shift]
      cases elements site v with
      | error f => rfl
      | ok vs =>
        have heach (v : Value) := runNodes_shift root v k body
        cases vs with
        | nil => exact hotherwise
        | cons w vs =>
          change Run.concat ((w :: vs).map fun v => runNodes root v (shiftNodes k body)) =
            (Run.concat ((w :: vs).map fun v => runNodes root v body)).shift k
          rw [Run.concat_shift, List.map_map]
          exact congrArg Run.concat (List.map_congr_left fun v _ => heach v)

theorem runNodes_shift (root dot : Value) (k : Nat) (ns : List Node) :
    runNodes root dot (shiftNodes k ns) = (runNodes root dot ns).shift k :=
  match ns with
  | [] => rfl
  | n :: rest => by
    rw [shiftNodes, runNodes, runNodes, Run.append_shift, n.run_shift, runNodes_shift]

end

end AlertRelay.Template
