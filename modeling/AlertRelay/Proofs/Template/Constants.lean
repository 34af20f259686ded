import AlertRelay.Proofs.Template.Concatenation
import AlertRelay.Proofs.Template.Parallel
import AlertRelay.Proofs.Value.Integers

/-!
The operands of a tree are those that its source names. So its integers are as short as those that
a source can spell.
-/

namespace AlertRelay.Template

open AlertRelay.Number AlertRelay.Text AlertRelay.Value

/-!
From tokens to the tree.
-/

/-- The operand that an item stands for by itself. -/
def Item.operand? : Item → Option Operand
  | .field root names => some (.field root names)
  | .dot => some .dot
  | .constant c => some (.constant c)
  | _ => none

/-- An item whose operand, if it stands for one, has a property. -/
def Item.Gives (P : Operand → Prop) (i : Item) : Prop := ∀ o ∈ i.operand?, P o

def Token.Gives (P : Operand → Prop) : Token → Prop
  | .item t => t.item.Gives P
  | _ => True

variable {P : Operand → Prop} {source : List Char}

theorem allOperands_append {os os' : List Operand} (h : allOperands P os)
    (h' : allOperands P os') : allOperands P (os ++ os') := by
  induction os with
  | nil => exact h'
  | cons o os ih => exact ⟨h.1, ih h.2⟩

theorem allCommands_append {cs cs' : List Command} (h : allCommands P cs)
    (h' : allCommands P cs') : allCommands P (cs ++ cs') := by
  induction cs with
  | nil => exact h'
  | cons c cs ih => exact ⟨h.1, ih h.2⟩

mutual

theorem IsOperand.all {d : Nat} {items : List Placed} {o : Operand} (h : IsOperand d items o)
    (hi : ∀ t ∈ items, t.item.Gives P) : o.All P :=
  match h with
  | .field | .dot | .constant => hi _ (List.mem_singleton_self _) _ rfl
  | .function _ => trivial
  | .group _ hp => hp.all fun t ht => hi t (by simp [ht])

theorem IsCommand.all {d : Nat} {items : List Placed} {c : Command} (h : IsCommand d items c)
    (hi : ∀ t ∈ items, t.item.Gives P) : c.All P :=
  match h with
  | .one ho => ⟨ho.all hi, trivial⟩
  | .more hc ho => by
    obtain ⟨hhead, harguments⟩ := hc.all fun t ht => hi t (by simp [ht])
    have ho := ho.all fun t ht => hi t (by simp [ht])
    exact ⟨hhead, allOperands_append harguments ⟨ho, trivial⟩⟩

theorem IsPipeline.all {d : Nat} {items : List Placed} {p : Pipeline} (h : IsPipeline d items p)
    (hi : ∀ t ∈ items, t.item.Gives P) : p.All P :=
  match h with
  | .one hc => ⟨hc.all hi, trivial⟩
  | .more hp hc => by
    obtain ⟨hfirst, hrest⟩ := hp.all fun t ht => hi t (by simp [ht])
    have hc := hc.all fun t ht => hi t (by simp [ht])
    exact ⟨hfirst, allCommands_append hrest ⟨hc, trivial⟩⟩

end

/-- The items of a pipeline that starts a list of tokens. -/
theorem gives_items {items : List Placed} {ts : List Token}
    (h : ∀ t ∈ items.map .item ++ ts, t.Gives P) :
    ∀ t ∈ items, t.item.Gives P :=
  fun t ht => h (.item t) (by simp [ht])

mutual

theorem IsTemplate.allNodes {d : Nat} {ts : List Token} {ns : List Node}
    (h : IsTemplate source d ts ns) (ht : ∀ t ∈ ts, t.Gives P) (inner : Bool) :
    allNodes (fun _ => P) inner ns :=
  match h with
  | .nil => trivial
  | .text hrest => ⟨trivial, hrest.allNodes (fun t hm => ht t (by simp [hm])) inner⟩
  | .action hp hrest => by
    have hp := hp.all (gives_items fun t hm => ht t (List.mem_cons_of_mem _ hm))
    exact ⟨hp, hrest.allNodes (fun t hm => ht t (by simp [hm])) inner⟩
  | .block _ hr hrest => by
    have hr := hr.all (fun t hm => ht t (by simp [hm])) inner
    exact ⟨hr, hrest.allNodes (fun t hm => ht t (by simp [hm])) inner⟩

theorem IsRest.all {k : Keyword} {d pos : Nat} {ts : List Token} {n : Node}
    (h : IsRest source k d pos ts n) (ht : ∀ t ∈ ts, t.Gives P) (inner : Bool) :
    n.All (fun _ => P) inner :=
  match h with
  | .mk hp hbody htail => by
    have hbody := hbody.allNodes (fun t hm => ht t (by simp [hm])) (inner || k.rebinds)
    have htail := htail.allNodes (fun t hm => ht t (by simp [hm])) inner
    exact ⟨hp.all (gives_items ht), hbody, htail⟩

theorem IsTail.allNodes {k : Keyword} {d : Nat} {ts : List Token} {ns : List Node}
    (h : IsTail source k d ts ns) (ht : ∀ t ∈ ts, t.Gives P) (inner : Bool) :
    allNodes (fun _ => P) inner ns :=
  match h with
  | .done _ => trivial
  | .otherwise hbody _ => hbody.allNodes (fun t hm => ht t (by simp [hm])) inner
  | .chain _ _ hr => ⟨hr.all (fun t hm => ht t (by simp [hm])) inner, trivial⟩

end

/-!
From the source to tokens.
-/

theorem ReadsItems.gives (hP : ∀ c r item n, ReadsItem c r item n → item.Gives P) {pos : Nat}
    {cs : List Char} {b : Body} (h : ReadsItems pos cs b) : ∀ t ∈ b.items, t.item.Gives P := by
  induction h with
  | close _ => exact fun t ht => nomatch ht
  | item _ hi _ ih => exact List.forall_mem_cons.mpr ⟨hP _ _ _ _ hi, ih⟩

theorem ReadsBody.gives (hP : ∀ c r item n, ReadsItem c r item n → item.Gives P) {pos : Nat}
    {cs : List Char} {b : Body} (h : ReadsBody pos cs b) : ∀ t ∈ b.items, t.item.Gives P := by
  cases h with
  | items h => exact h.gives hP
  | comment _ _ _ => exact fun t ht => nomatch ht

theorem ReadsPieces.gives (hP : ∀ c r item n, ReadsItem c r item n → item.Gives P) {pos : Nat}
    {cs : List Char} {ps : List Piece} (h : ReadsPieces pos cs ps) :
    ∀ t ∈ tokens ps, t.Gives P := by
  have htext (pos : Nat) (cs : List Char) : ∀ t ∈ tokens (textPiece pos cs), t.Gives P := by
    intro t ht
    cases cs with
    | nil => cases ht
    | cons a cs =>
      cases List.mem_singleton.mp ht
      trivial
  induction h with
  | last _ => exact htext _ _
  | more _ _ hb _ _ _ ih =>
    intro t ht
    simp only [tokens, List.flatMap_append, List.mem_append] at ht
    rcases ht with (ht | ht) | ht
    · exact htext _ _ t ht
    · rcases mem_tokens_pieces ht with rfl | ⟨i, hi, rfl⟩ | rfl
      · trivial
      · exact hb.gives hP i hi
      · trivial
    · exact ih t ht

/-- What all items that can be read give, all operands of a compiled template have. -/
theorem allNodes_of_compile {name s : String} {t : Template} (h : compile name s = .ok t)
    (hP : ∀ c r item n, ReadsItem c r item n → item.Gives P) (inner : Bool) :
    allNodes (fun _ => P) inner t.nodes := by
  obtain ⟨ns, hns, rfl⟩ := map_eq_ok h
  obtain ⟨ps, hps, htree⟩ := readNodes_eq_ok_iff.mp hns
  exact htree.allNodes (hps.gives hP) inner

/-!
Constants.
-/

/-- Constants that are no longer than a source can spell. -/
def Operand.IsShort : Operand → Prop
  | .constant c => c.toValue.Short
  | _ => True

theorem short_of_value {m : Numeral} {c : Constant} (h : m.value = .ok c) : c.toValue.Short := by
  unfold Numeral.value at h
  dsimp only at h
  split at h
  · split at h
    · cases h
    · next hlength =>
      cases h
      have hpow : powTen m.whole.length ≤ limitBound := powTen_le_powTen (Nat.le_of_not_lt hlength)
      intro n hn
      obtain rfl := List.mem_singleton.mp hn
      have habs (b : Bool) (k : Nat) : (if b then -Int.ofNat k else Int.ofNat k).natAbs = k := by
        cases b <;> simp
      rw [habs]
      exact Nat.lt_of_lt_of_le (digitsValue_lt m.whole) hpow
  · cases h
    exact fun n hn => nomatch hn

theorem wordItem_isShort (name : List Char) : (wordItem name).Gives Operand.IsShort := by
  have hshort (c : Constant) (hc : c.toValue.integers = []) :
      (Item.constant c).Gives Operand.IsShort := by
    rintro o ⟨⟩ n hn
    rw [hc] at hn
    cases hn
  unfold wordItem
  dsimp only
  split
  · exact hshort _ rfl
  · split
    · exact hshort _ rfl
    · split
      · exact hshort _ rfl
      · exact fun o ho => nomatch ho

theorem ReadsItem.isShort {c : Char} {r : List Char} {item : Item} {n : Nat}
    (h : ReadsItem c r item n) : item.Gives Operand.IsShort := by
  cases h with
  | number _ _ _ hv =>
    rintro o ⟨⟩
    exact short_of_value hv
  | quoted _ _ | raw _ _ =>
    rintro o ⟨⟩
    exact fun n hn => nomatch hn
  | word _ _ _ _ _ => exact wordItem_isShort _
  | root _ _ _ | field _ _ _ | dot _ _ _ =>
    rintro o ⟨⟩
    trivial
  | pipe _ | leftParen _ | rightParen _ => exact fun o ho => nomatch ho

end AlertRelay.Template
