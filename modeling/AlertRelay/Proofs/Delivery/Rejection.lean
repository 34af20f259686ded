import AlertRelay.Delivery.Exchange
import AlertRelay.Proofs.Json.TreeReading

/-!
What a rejected event is reported with: the complaint in the first JSON value of the answer, and
the whole answer where there is none. What stands behind the value plays no part.
-/

namespace AlertRelay.Delivery

open AlertRelay.Json AlertRelay.Text

/-- An object that complains with a text. -/
def Complains (o e : List Char) : Prop :=
  e ≠ [] ∧ ∃ ms, IsValue o (.object ms) ∧ (Tree.object ms).holdsLong = false ∧
    IsLastMember ms "error" (.text e)

/-- A text at whose head no complaint stands. -/
inductive Unclear : List Char → Prop
  | noValue {cs} : (∀ o r t, cs = o ++ r → ¬ IsValue o t) → Unclear cs
  | long {o r t} : IsValue o t → t.holdsLong = true → Unclear (o ++ r)
  | noObject {o r t} : IsValue o t → (∀ ms, t ≠ .object ms) → Unclear (o ++ r)
  | absent {o r ms} : IsValue o (.object ms) → (∀ m ∈ ms, m.1 ≠ "error".toList) → Unclear (o ++ r)
  | noText {o r ms t} : IsValue o (.object ms) → IsLastMember ms "error" t →
      (∀ s, t ≠ .text s) → Unclear (o ++ r)
  | empty {o r ms} : IsValue o (.object ms) → IsLastMember ms "error" (.text []) → Unclear (o ++ r)

theorem complaint?_eq_some_iff {body s : String} :
    complaint? body = some s ↔
      ∃ o r, body.toList.dropWhile isSpacing = o ++ r ∧ Complains o s.toList := by
  unfold complaint?
  generalize body.toList.dropWhile isSpacing = cs
  constructor
  · intro h
    split at h
    · next tree r hread =>
      obtain ⟨o, hcs, htree, hlong⟩ := isValue_of_readTree _ hread
      split at h
      · next e hmember =>
        split at h
        · cases h
        · next hne =>
          cases h
          cases tree with
          | object ms =>
            rw [String.toList_ofList]
            exact ⟨o, r, hcs, fun he => hne (List.isEmpty_iff.2 he), ms, htree, hlong,
              member?_eq_some_iff.1 hmember⟩
          | null | truth _ | number _ | text _ | list _ => cases hmember
      · cases h
    · cases h
  · rintro ⟨o, r, rfl, hne, ms, ho, hlong, hlast⟩
    rw [read?_object ho, hlong]
    simp [member?_eq_some_iff.2 hlast, hne]

/-- A body without white space before it or anything behind it complains as a whole. -/
theorem complains_of_complaint? {body e : String} (h : complaint? body = some e)
    (hbody : body.toList.dropWhile isSpacing = body.toList)
    (hread : (read? body.toList).map Prod.snd = some []) : Complains body.toList e.toList := by
  obtain ⟨o, r, ho, hc⟩ := complaint?_eq_some_iff.1 h
  obtain ⟨-, ms, hvalue, hlong, -⟩ := id hc
  rw [hbody] at ho
  rw [ho, read?_object hvalue, hlong] at hread
  obtain rfl : r = [] := Option.some.inj hread
  rwa [ho, List.append_nil]

theorem Complains.not_unclear {o r e : List Char} (h : Complains o e) : ¬ Unclear (o ++ r) := by
  obtain ⟨hne, ms, ho, hlong, hlast⟩ := h
  generalize hcs : o ++ r = cs
  intro hun
  cases hun with
  | noValue hno => exact hno o r _ hcs.symm ho
  | long ht hlong' =>
    cases ht.eq_object ho hlong hcs.symm
    rw [hlong] at hlong'
    cases hlong'
  | noObject ht hno => exact hno ms (ht.eq_object ho hlong hcs.symm)
  | absent ht hno =>
    cases ht.eq_object ho hlong hcs.symm
    rw [← member?_eq_none_iff, member?_eq_some_iff.2 hlast] at hno
    cases hno
  | noText ht hlast' hno =>
    cases ht.eq_object ho hlong hcs.symm
    exact hno e (hlast'.unique hlast)
  | empty ht hlast' =>
    cases ht.eq_object ho hlong hcs.symm
    cases hlast'.unique hlast
    exact hne rfl

theorem unclear_or_complains (cs : List Char) :
    Unclear cs ∨ ∃ o r e, cs = o ++ r ∧ Complains o e := by
  by_cases hvalue : ∃ o r t, cs = o ++ r ∧ IsValue o t
  · obtain ⟨o, r, t, rfl, ht⟩ := hvalue
    cases hlong : t.holdsLong with
    | true => exact .inl (.long ht hlong)
    | false =>
      cases t with
      | object ms =>
        cases hmember : (Tree.object ms).member? "error" with
        | none => exact .inl (.absent ht (member?_eq_none_iff.1 hmember))
        | some t =>
          have hlast := member?_eq_some_iff.1 hmember
          cases t with
          | text e =>
            by_cases hne : e = []
            · exact .inl (.empty ht (hne ▸ hlast))
            · exact .inr ⟨o, r, e, rfl, hne, ms, ht, hlong, hlast⟩
          | null | truth _ | number _ | list _ | object _ =>
            exact .inl (.noText ht hlast fun _ heq => Tree.noConfusion heq)
      | null | truth _ | number _ | text _ | list _ =>
        exact .inl (.noObject ht fun _ heq => Tree.noConfusion heq)
  · exact .inl (.noValue fun o r t hcs ht => hvalue ⟨o, r, t, hcs, ht⟩)

theorem complaint?_eq_none_iff {body : String} :
    complaint? body = none ↔ Unclear (body.toList.dropWhile isSpacing) := by
  rw [Option.eq_none_iff_forall_ne_some]
  simp only [ne_eq, complaint?_eq_some_iff]
  constructor
  · intro h
    obtain hun | ⟨o, r, e, hcs, he⟩ := unclear_or_complains (body.toList.dropWhile isSpacing)
    · exact hun
    · exact absurd ⟨o, r, hcs, by rwa [String.toList_ofList]⟩ (h (String.ofList e))
  · rintro hun s ⟨o, r, hcs, he⟩
    exact he.not_unclear (hcs ▸ hun)

theorem message_of_complaint {status : Nat} {body s : String} (h : complaint? body = some s) :
    (Failure.rejected status body).message = s := by
  show rejectionMessage status body = s
  simp only [rejectionMessage, h]

theorem message_of_no_complaint {status : Nat} {body : String} (h : complaint? body = none) :
    (Failure.rejected status body).message =
      "failed to understand ServiceNow response. code: " ++ toString status ++ " content: " ++
        body := by
  show rejectionMessage status body = _
  simp only [rejectionMessage, h]

/-- White space before an object is passed over. -/
theorem Complains.dropWhile_append {w o e : List Char} (h : Complains o e)
    (hw : ∀ c ∈ w, isSpacing c = true) (r : List Char) :
    (w ++ o ++ r).dropWhile isSpacing = o ++ r := by
  obtain ⟨_, ms, ho, _⟩ := h
  have hbrace := ho.head?_eq_brace_iff.2 ⟨ms, rfl⟩
  obtain ⟨o', rfl⟩ := List.head?_eq_some_iff.1 hbrace
  rw [List.append_assoc, List.dropWhile_append_of_pos hw, List.cons_append,
    List.dropWhile_cons_of_neg (by decide)]

/-- The report of a rejected event. A complaint is taken from the first JSON value behind white
space, in any escaping and whatever follows; each other body is given back as it came. Every answer
that refuses the event comes to such a report, with its status and its body. A half of a surrogate
pair on its own, which no text holds, is U+FFFD in a complaint; and nothing is nested deeper than
the stack of the reader allows. -/
theorem rejected_message (status : Nat) :
    (∀ w o r e, (∀ c ∈ w, isSpacing c = true) → Complains o e →
      (Failure.rejected status (String.ofList (w ++ o ++ r))).message = String.ofList e) ∧
    (∀ body : String, Unclear (body.toList.dropWhile isSpacing) →
      (Failure.rejected status body).message =
        "failed to understand ServiceNow response. code: " ++ toString status ++ " content: " ++
          body) ∧
    (∀ body : String, Unclear (body.toList.dropWhile isSpacing) ∨
      ∃ w o r e, body.toList = w ++ o ++ r ∧ (∀ c ∈ w, isSpacing c = true) ∧ Complains o e) ∧
    (∀ bytes, status ≠ created → (settle (.opened status (.ok bytes))).1 =
      .error (.rejected status (String.ofList (Utf8.decode bytes)))) := by
  refine ⟨?_, ?_, ?_, ?_⟩
  · intro w o r e hw he
    refine message_of_complaint (complaint?_eq_some_iff.2 ⟨o, r, ?_, ?_⟩)
    · rw [String.toList_ofList, he.dropWhile_append hw]
    · rwa [String.toList_ofList]
  · intro body hun
    exact message_of_no_complaint (complaint?_eq_none_iff.2 hun)
  · intro body
    obtain hun | ⟨o, r, e, hcs, he⟩ := unclear_or_complains (body.toList.dropWhile isSpacing)
    · exact .inl hun
    · refine .inr ⟨body.toList.takeWhile isSpacing, o, r, e, ?_, fun _ => List.mem_takeWhile_imp,
        he⟩
      rw [List.append_assoc, ← hcs, List.takeWhile_append_dropWhile]
  · intro bytes hs
    have hne : (status == created) = false := beq_false_of_ne hs
    simp [settle, Answer.opened, Answer.read, hne]

/-- Two members of one name, the second of them escaped, between white space and what is no value;
and a list. -/
theorem rejected_message_escaped :
    Complains "\x7b\"error\":5, \"e\\u0072ror\" : \"\\uD83D\\ude00\\/ n\\u00f8\"\x7d".toList
        "😀/ nø".toList ∧
      (Failure.rejected 500 (String.ofList ("\u2003\x0b".toList ++
        "\x7b\"error\":5, \"e\\u0072ror\" : \"\\uD83D\\ude00\\/ n\\u00f8\"\x7d".toList ++
        "\x7d [1,".toList))).message = String.ofList "😀/ nø".toList ∧
      Unclear ("[\"error\"]".toList.dropWhile isSpacing) ∧
      (Failure.rejected 500 "[\"error\"]").message =
        "failed to understand ServiceNow response. code: " ++ toString 500 ++ " content: " ++
          "[\"error\"]" := by
  have hcomplains : Complains
      "\x7b\"error\":5, \"e\\u0072ror\" : \"\\uD83D\\ude00\\/ n\\u00f8\"\x7d".toList
      "😀/ nø".toList :=
    complains_of_complaint? (by decide +kernel) rfl (by decide +kernel)
  have hunclear : Unclear ("[\"error\"]".toList.dropWhile isSpacing) :=
    complaint?_eq_none_iff.1 (by decide +kernel)
  have h := rejected_message 500
  exact ⟨hcomplains, h.1 _ _ _ _ (List.all_eq_true.1 rfl) hcomplains, hunclear, h.2.1 _ hunclear⟩

end AlertRelay.Delivery
