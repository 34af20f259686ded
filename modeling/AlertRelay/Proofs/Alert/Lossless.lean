import AlertRelay.Proofs.Alert.Encoding
import AlertRelay.Proofs.Json.Reading
import AlertRelay.Proofs.Text.Utf8

/-!
The body of an event loses nothing: it is read back as one object of eight texts, those of the
event.
-/

namespace AlertRelay.Alert

open AlertRelay.Json AlertRelay.Text

/-!
Objects whose members are texts.
-/

/-- A member as it is read. -/
def memberTree (m : String × List Char) : List Char × Tree := (m.1.toList, .text m.2)

theorem memberText_append (m : String × List Char) (r : List Char) : memberText m ++ r =
    '"' :: (m.1.toList.flatMap escapeChar ++ '"' :: ':' :: (quote m.2 ++ r)) := by
  simp [memberText, quote]

theorem readMember_memberText (fuel : Nat) (m : String × List Char) (r : List Char) :
    readMember (fuel + 2) (memberText m ++ r) = some (memberTree m, r) := by
  have hcolon : skipBlanks (':' :: (quote m.2 ++ r)) = ':' :: (quote m.2 ++ r) := rfl
  have hquote : skipBlanks (quote m.2 ++ r) = quote m.2 ++ r := rfl
  rw [memberText_append, readMember, readText_escape, Option.bind_some]
  dsimp only
  rw [hcolon]
  change (readTree (fuel + 1) (skipBlanks (quote m.2 ++ r))).map _ = _
  rw [hquote, readTree_quote]
  rfl

/-- Members with commas between them. -/
def membersText (ms : List (String × List Char)) : List Char :=
  [','].intercalate (ms.map memberText)

theorem membersText_singleton (m : String × List Char) : membersText [m] = memberText m :=
  List.intercalate_singleton

theorem membersText_cons (m m' : String × List Char) (ms : List (String × List Char)) :
    membersText (m :: m' :: ms) = memberText m ++ ',' :: membersText (m' :: ms) := by
  simp [membersText, List.intercalate_cons_cons]

/-- What stands at the head of some members is no blank. -/
theorem exists_membersText (m : String × List Char) (ms : List (String × List Char)) :
    ∃ r, membersText (m :: ms) = '"' :: r := by
  cases ms with
  | nil => exact ⟨_, membersText_singleton m⟩
  | cons m' ms => exact ⟨_, membersText_cons m m' ms⟩

theorem readMembers_membersText (fuel : Nat) (m : String × List Char)
    (ms : List (String × List Char)) (r : List Char) :
    readMembers (fuel + ms.length + 3) (membersText (m :: ms) ++ '\x7d' :: r) =
      some ((m :: ms).map memberTree, r) := by
  induction ms generalizing m with
  | nil =>
    have hbrace : skipBlanks ('\x7d' :: r) = '\x7d' :: r := rfl
    rw [membersText_singleton, readMembers, readMember_memberText, Option.bind_some]
    dsimp only
    rw [hbrace]
    rfl
  | cons m' ms ih =>
    have hfuel : fuel + (m' :: ms).length + 2 = fuel + ms.length + 3 := by
      rw [List.length_cons]
      omega
    have hcomma (r : List Char) : skipBlanks (',' :: r) = ',' :: r := rfl
    have hskip : skipBlanks (membersText (m' :: ms) ++ '\x7d' :: r) =
        membersText (m' :: ms) ++ '\x7d' :: r := by
      obtain ⟨s, hs⟩ := exists_membersText m' ms
      rw [hs]
      rfl
    rw [membersText_cons, List.append_assoc, readMembers, readMember_memberText, Option.bind_some]
    dsimp only
    rw [List.cons_append, hcomma]
    change (readMembers _ (skipBlanks (membersText (m' :: ms) ++ '\x7d' :: r))).map _ = _
    rw [hskip, hfuel, ih]
    rfl

theorem length_le_membersText (ms : List (String × List Char)) :
    ms.length ≤ (membersText ms).length := by
  have hmember (m : String × List Char) : 1 ≤ (memberText m).length := Nat.le_add_left ..
  cases ms with
  | nil => exact Nat.zero_le _
  | cons m ms =>
    induction ms generalizing m with
    | nil =>
      rw [membersText_singleton]
      exact hmember m
    | cons m' ms ih =>
      have hrest := ih m'
      simp only [membersText_cons, List.length_append, List.length_cons] at hrest ⊢
      omega

theorem objectText_eq (ms : List (String × List Char)) :
    objectText ms = '\x7b' :: (membersText ms ++ ['\x7d']) := rfl

theorem read?_objectText (ms : List (String × List Char)) :
    read? (objectText ms) = some (.object (ms.map memberTree), []) := by
  cases ms with
  | nil => rfl
  | cons m ms =>
    obtain ⟨s, hs⟩ := exists_membersText m ms
    have hskip : skipBlanks (membersText (m :: ms) ++ ['\x7d']) =
        '"' :: (s ++ ['\x7d']) := by
      rw [hs]
      rfl
    -- Each member takes a character at least, so there is fuel for all of them.
    have hlength := length_le_membersText (m :: ms)
    rw [List.length_cons] at hlength
    obtain ⟨fuel, hfuel⟩ : ∃ fuel, (objectText (m :: ms)).length = fuel + ms.length + 3 := by
      rw [objectText_eq]
      simp only [List.length_cons, List.length_append, List.length_nil]
      exact ⟨(membersText (m :: ms)).length - (ms.length + 1), by omega⟩
    have hread := readMembers_membersText fuel m ms []
    rw [read?, hfuel, objectText_eq, readTree, hskip]
    change (readMembers _ ('"' :: (s ++ ['\x7d']))).map _ = _
    rw [← List.cons_append, ← hs, hread]
    rfl

/-!
Bodies.
-/

namespace Payload

/-- The members of the body as they are read. -/
def memberTrees (p : Payload) : List (List Char × Tree) :=
  [("source".toList, .text p.source.toList), ("node".toList, .text p.node.toList),
    ("type".toList, .text p.type.toList), ("resource".toList, .text p.resource.toList),
    ("metric_name".toList, .text p.metricName.toList),
    ("message_key".toList, .text p.messageKey.toList),
    ("severity".toList, .text p.severity.toList),
    ("description".toList, .text p.description.toList)]

theorem memberTrees_injective : Function.Injective memberTrees := by
  intro p q h
  simp only [memberTrees, List.cons.injEq, Prod.mk.injEq, Tree.text.injEq, String.toList_inj,
    true_and, and_true] at h
  obtain ⟨hsource, hnode, htype, hresource, hmetric, hkey, hseverity, hdescription⟩ := h
  cases p
  cases q
  simp_all

theorem decode?_body (p : Payload) :
    Utf8.decode? p.body = some (objectText (p.fields.map fun f => (f.1, f.2.toList))) :=
  Utf8.decode?_encode _

/-- Every event has a body that is well formed, is one object of the eight texts of the event under
their names and in their order, and is the body of no other event. -/
theorem encode_lossless (p : Payload) : ∃ bytes text,
    p.encode = .ok bytes ∧ (bytes.map UInt8.ofNat).toByteArray.IsValidUTF8 ∧
      Utf8.decode? bytes = some text ∧ Json.read? text = some (.object p.memberTrees, []) ∧
      ∀ q : Payload, q.encode = .ok bytes → q = p := by
  have hread (p : Payload) : Json.read? (objectText (p.fields.map fun f => (f.1, f.2.toList))) =
      some (.object p.memberTrees, []) := read?_objectText _
  refine ⟨p.body, _, encode_eq p, Utf8.isValidUTF8_encode _, decode?_body p, hread p,
    fun q hq => ?_⟩
  have hbody : q.body = p.body := by
    rw [encode_eq] at hq
    exact Except.ok.inj hq
  have htext := Utf8.encode_injective hbody
  have htree := hread q
  rw [htext, hread p] at htree
  injection htree with htree
  injection htree with htree
  injection htree with htree
  exact memberTrees_injective htree.symm

end Payload

end AlertRelay.Alert
