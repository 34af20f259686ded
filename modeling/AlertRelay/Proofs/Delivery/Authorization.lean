import AlertRelay.Delivery.Exchange
import AlertRelay.Proofs.Text.Base64

/-!
The header that goes with credentials can be read: it holds the user name and the password, and
nothing else.
-/

namespace AlertRelay.Delivery

open AlertRelay.Text

/-- A header that gives a user name and a password, with a colon between them and in Base 64. -/
def IsBasic (user password header : String) : Prop :=
  ∃ cs bytes, header = "Basic " ++ String.ofList cs ∧
    Base64.decode? cs = some bytes ∧ cs.length = 4 * ((bytes.length + 2) / 3) ∧
      Utf8.decode? bytes = some (user.toList ++ ':' :: password.toList)

/-- The header that goes with credentials, or without any. -/
inductive Authorizes : Option (String × String) → Option String → Prop
  | none : Authorizes none none
  | basic {user password header} (reads : IsBasic user password header) :
      Authorizes (some (user, password)) (some header)

/-- The user and the password that a URL holds, unless it holds neither. -/
def ownCredentials (u : Url) : Option (String × String) :=
  if u.credentials = ("", "") then none else some u.credentials

theorem utf8_lt {cs : List Char} : ∀ b ∈ Utf8.encode cs, b < 256 := by
  intro b hb
  obtain ⟨c, -, hb⟩ := List.mem_flatMap.mp hb
  obtain ⟨x, -, rfl⟩ := List.mem_map.mp hb
  exact x.toNat_lt

theorem isBasic_basicAuthorization (user password : String) :
    IsBasic user password (basicAuthorization user password) :=
  ⟨_, _, rfl, Base64.decode?_encode utf8_lt, Base64.length_encode _, Utf8.decode?_encode _⟩

theorem authorizes_post (p : Post) : Authorizes p.credentials p.authorization := by
  unfold Post.authorization
  cases p.credentials with
  | none => exact .none
  | some c => exact .basic (isBasic_basicAuthorization c.1 c.2)

theorem authorizes_url (u : Url) : Authorizes (ownCredentials u) (urlAuthorization u) := by
  unfold ownCredentials urlAuthorization
  obtain ⟨user, password⟩ := u.credentials
  dsimp only
  by_cases h : user = "" ∧ password = ""
  · obtain ⟨rfl, rfl⟩ := h
    exact .none
  · rw [if_neg (by simpa using h), if_neg (by simpa [String.isEmpty_iff] using h)]
    exact .basic (isBasic_basicAuthorization user password)

/-- Credentials that were prepared go before those of the URL. -/
theorem authorizes_or {p : Post} {u : Url} :
    (p.credentials ≠ none ∨ ownCredentials u = none →
      Authorizes p.credentials (p.authorization.or (urlAuthorization u))) ∧
    (p.credentials = none →
      Authorizes (ownCredentials u) (p.authorization.or (urlAuthorization u))) := by
  have hpost := authorizes_post p
  have hurl := authorizes_url u
  generalize p.credentials = prepared, p.authorization = header at hpost ⊢
  cases hpost with
  | none =>
    rw [Option.none_or]
    refine ⟨fun h => ?_, fun _ => hurl⟩
    obtain h | h := h
    · exact absurd rfl h
    · rwa [h] at hurl
  | basic reads => exact ⟨fun _ => .basic reads, nofun⟩

end AlertRelay.Delivery
