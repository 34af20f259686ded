import AlertRelay.Proofs.Url.Port
import AlertRelay.Proofs.Url.Path
import AlertRelay.Proofs.Url.Wire
import AlertRelay.Url.Basic
import Mathlib.Data.List.TakeWhile

/-!
The pieces that a text is cut into before they are read, and that the text of a URL is cut into
the parts of that URL.
-/

namespace AlertRelay.Url

open AlertRelay.Number AlertRelay.Text

variable {c : Char} {cs xs r : List Char}

/-! Cuts at a character. -/

theorem splitLast?_of_not_mem (h : c ∉ cs) : splitLast? c cs = none :=
  if_neg (by simpa using h)

theorem splitLast?_append (h : c ∉ r) : splitLast? c (xs ++ c :: r) = some (xs, r) := by
  have hafter : ((xs ++ c :: r).reverse.takeWhile (· != c)).reverse = r := by
    rw [List.reverse_append, List.reverse_cons, List.append_assoc, List.singleton_append,
      takeWhile_append_stop, List.reverse_reverse]
    · intro a ha
      rw [bne_iff_ne]
      rintro rfl
      exact h (List.mem_reverse.mp ha)
    · simp
  unfold splitLast?
  dsimp only
  have hlength : (xs ++ c :: r).length - r.length - 1 = xs.length := by
    rw [List.length_append, List.length_cons]
    omega
  rw [if_pos (by simp), hafter, hlength, List.take_left]

theorem splitLast?_eq_some_iff {before after : List Char} :
    splitLast? c cs = some (before, after) ↔ cs = before ++ c :: after ∧ c ∉ after := by
  constructor
  · intro h
    have hc : c ∈ cs := by
      refine Decidable.not_not.mp fun hn => ?_
      rw [splitLast?_of_not_mem hn] at h
      cases h
    obtain ⟨later, earlier, hcs, hlater⟩ := List.eq_append_cons_of_mem (List.mem_reverse.mpr hc)
    have heq : cs = earlier.reverse ++ c :: later.reverse := by
      rw [← List.reverse_reverse cs, hcs]
      simp
    have hn : c ∉ later.reverse := fun hm => hlater (List.mem_reverse.mp hm)
    rw [heq, splitLast?_append hn] at h
    cases h
    exact ⟨heq, hn⟩
  · rintro ⟨rfl, hn⟩
    exact splitLast?_append hn

/-- The pieces of a text, as they stand in it. -/
structure Pieces where
  scheme : List Char
  user : List Char
  host : List Char
  port : List Char
  path : List Char
  query : Option (List Char)
  fragment : Option (List Char)

/-- Cuts a text into its pieces. -/
def cut (cs : List Char) : Pieces :=
  let (scheme, r) := splitScheme cs
  let (authority, r) := splitAuthority r
  let p := fun c => c != '?' && c != '#'
  let path := r.takeWhile p
  let (query, r) := splitMarked '?' (· == '#') (r.dropWhile p)
  let (fragment, _) := splitMarked '#' (fun _ => false) r
  let (user, host, port) := splitHost authority
  { scheme, user, host, port, path, query, fragment }

/-- Reads the pieces of a URL. -/
def Pieces.read (ps : Pieces) : Except Flaw Url := do
  let user := escape userSafe ps.user
  let host ← readHost ps.host
  let port ← readPort ps.scheme ps.port
  let hasScheme := !ps.scheme.isEmpty
  let hasAuthority := !user.isEmpty || !host.isEmpty || port.isSome
  checkPath ps.path hasScheme hasAuthority
  let path := if hasScheme || hasAuthority then removeDots ps.path else ps.path
  return {
    scheme := lowerAscii ps.scheme
    user, host, port
    path := escape pathSafe path
    query := ps.query.map (escape querySafe)
    fragment := ps.fragment.map (escape fragmentSafe) }

theorem parse_eq (s : String) : parse s =
    if lengthLimit < s.toList.length then .error .tooLong
    else match s.toList.find? isControl with
      | some c => .error (.control c (s.toList.takeWhile (!isControl ·)).length)
      | none => (cut s.toList).read := by
  unfold parse
  dsimp only
  split
  · rfl
  · cases s.toList.find? isControl <;> rfl

theorem parse_eq_ok_iff {s : String} {u : Url} :
    parse s = .ok u ↔ s.toList.length ≤ lengthLimit ∧ (∀ c ∈ s.toList, isControl c = false) ∧
      (cut s.toList).read = .ok u := by
  rw [parse_eq]
  split
  · next hlong =>
    constructor
    · rintro ⟨⟩
    · exact fun h => absurd h.1 (Nat.not_le.mpr hlong)
  · next hshort =>
    split
    · next c hc =>
      constructor
      · rintro ⟨⟩
      · rintro ⟨-, hplain, -⟩
        have hcontrol := List.find?_some hc
        rw [hplain c (List.mem_of_find?_eq_some hc)] at hcontrol
        cases hcontrol
    · next hnone =>
      rw [List.find?_eq_none] at hnone
      exact ⟨fun h => ⟨Nat.le_of_not_lt hshort, fun c hc => by simpa using hnone c hc, h⟩,
        fun h => h.2.2⟩

/-- Whether a URL names a place on a network. -/
def hasAuthority (u : Url) : Bool := !u.user.isEmpty || !u.host.isEmpty || u.port.isSome

/-- The URL that pieces stand for. -/
structure Pieces.StandFor (ps : Pieces) (u : Url) : Prop where
  scheme : u.scheme = lowerAscii ps.scheme
  user : u.user = escape userSafe ps.user
  host : readHost ps.host = .ok u.host
  port : readPort ps.scheme ps.port = .ok u.port
  pathFits : checkPath ps.path (!ps.scheme.isEmpty) u.hasAuthority = .ok ()
  path : u.path = escape pathSafe
    (if !ps.scheme.isEmpty || u.hasAuthority then removeDots ps.path else ps.path)
  query : u.query = ps.query.map (escape querySafe)
  fragment : u.fragment = ps.fragment.map (escape fragmentSafe)

theorem Pieces.read_eq_ok_iff {ps : Pieces} {u : Url} : ps.read = .ok u ↔ ps.StandFor u := by
  constructor
  · intro h
    unfold Pieces.read at h
    obtain ⟨host, hhost, h⟩ := bind_eq_ok_iff.mp h
    obtain ⟨port, hport, h⟩ := bind_eq_ok_iff.mp h
    obtain ⟨⟨⟩, hpath, h⟩ := bind_eq_ok_iff.mp h
    cases h
    exact ⟨rfl, rfl, hhost, hport, hpath, rfl, rfl, rfl⟩
  · intro h
    obtain ⟨scheme, user, host, port, path, query, fragment⟩ := u
    obtain ⟨hscheme, huser, hhost, hport, hfits, hpath, hquery, hfragment⟩ := h
    dsimp only [hasAuthority] at hscheme huser hhost hport hfits hpath hquery hfragment
    subst hscheme huser hquery hfragment
    -- The path is not substituted, for the condition in it mentions the whole URL.
    rw [hpath]
    exact bind_eq_ok_iff.mpr ⟨host, hhost, bind_eq_ok_iff.mpr ⟨port, hport,
      bind_eq_ok_iff.mpr ⟨(), hfits, rfl⟩⟩⟩

/-! Where the pieces stand in a text. -/

theorem mem_of_mem_splitScheme (h : c ∈ (splitScheme cs).2) : c ∈ cs := by
  unfold splitScheme at h
  dsimp only at h
  split at h
  · next r hr =>
    exact List.mem_of_mem_drop (hr ▸ List.mem_cons_of_mem ':' h)
  · exact h

/-- A character that ends the authority. -/
def endsAuthority (c : Char) : Bool := c == '/' || c == '?' || c == '#'

theorem mem_splitAuthority (h : c ∈ (splitAuthority cs).1) :
    c ∈ cs ∧ endsAuthority c = false := by
  unfold splitAuthority at h
  split at h
  · next r =>
    have hstop := List.mem_takeWhile_imp h
    have hmem : c ∈ r := (List.takeWhile_prefix _).subset h
    refine ⟨List.mem_cons_of_mem '/' (List.mem_cons_of_mem '/' hmem), ?_⟩
    simpa [endsAuthority, bne, and_assoc] using hstop
  · cases h

/-- The host at the head of what follows the user. -/
def hostAt (r : List Char) : List Char :=
  match r.head?, splitLast? ']' r with
  | some '[', some (inside, _) => inside ++ [']']
  | _, _ => r.takeWhile (· != ':')

theorem splitHost_eq {user : List Char}
    (h : (splitLast? '@' cs).getD ([], cs) = (user, r)) :
    splitHost cs = (user, hostAt r, if (r.drop (hostAt r).length).head? == some ':' then
      (r.drop (hostAt r).length).drop 1 else r.drop (hostAt r).length) := by
  unfold splitHost
  rw [h]
  rfl

theorem mem_of_mem_hostAt (h : c ∈ hostAt r) : c ∈ r := by
  unfold hostAt at h
  split at h
  · next inside after _ hlast =>
    rw [(splitLast?_eq_some_iff.mp hlast).1]
    rcases List.mem_append.mp h with h | h
    · exact List.mem_append_left _ h
    · exact List.mem_append_right _ (List.mem_singleton.mp h ▸ List.mem_cons_self)
  · exact (List.takeWhile_prefix _).subset h

theorem mem_splitHost (h : c ∈ (splitHost cs).2.1) : c ∈ cs ∧ c ≠ '@' := by
  have hrest : ∀ a ∈ ((splitLast? '@' cs).getD ([], cs)).2, a ∈ cs ∧ a ≠ '@' := by
    intro a ha
    cases hat : splitLast? '@' cs with
    | none =>
      rw [hat] at ha
      refine ⟨ha, fun heq => ?_⟩
      rw [splitLast?, if_pos (by simpa [heq] using ha)] at hat
      cases hat
    | some parts =>
      obtain ⟨hcs, hn⟩ := splitLast?_eq_some_iff.mp hat
      rw [hat] at ha
      exact ⟨hcs ▸ List.mem_append_right _ (List.mem_cons_of_mem _ ha), fun heq => hn (heq ▸ ha)⟩
  rw [splitHost_eq (Prod.eta _).symm] at h
  exact hrest c (mem_of_mem_hostAt h)

theorem mem_host_of_cut (h : c ∈ (cut cs).host) : c ∈ cs ∧ endsAuthority c = false ∧ c ≠ '@' := by
  obtain ⟨hmem, hat⟩ := mem_splitHost h
  obtain ⟨hmem, hends⟩ := mem_splitAuthority hmem
  exact ⟨mem_of_mem_splitScheme hmem, hends, hat⟩

/-! The text of a URL, cut. -/

/-- A host as it is written, an address of eight parts in brackets. -/
def writtenHost (host : List Char) : List Char :=
  if host.contains ':' then '[' :: host ++ [']'] else host

/-- The parts of a URL as pieces of its text. -/
def pieces (u : Url) : Pieces where
  scheme := u.scheme
  user := u.user
  host := writtenHost u.host
  port := portText u.port
  path := u.path
  query := u.query
  fragment := u.fragment

/-- A name of a scheme. -/
def IsScheme (scheme : List Char) : Prop :=
  ∃ c cs, scheme = c :: cs ∧ c.isAlpha = true ∧ ∀ a ∈ cs, isSchemeChar a = true

theorem IsScheme.ne_nil {scheme : List Char} (h : IsScheme scheme) : scheme ≠ [] := by
  obtain ⟨c, cs, rfl, -⟩ := h
  exact List.cons_ne_nil c cs

/-- A URL with a host in which no part holds what ends it. -/
structure IsSeparable (u : Url) : Prop where
  scheme : IsScheme u.scheme
  user : ∀ c ∈ u.user, endsAuthority c = false ∧ c ≠ '@'
  named : u.host ≠ []
  host : ∀ c ∈ u.host, endsAuthority c = false ∧ c ≠ '@'
  opened : ':' ∈ u.host ∨ '[' ∉ u.host
  rooted : IsRooted u.path
  path : ∀ c ∈ u.path, c ≠ '?' ∧ c ≠ '#'
  query : ∀ q ∈ u.query, '#' ∉ q

theorem splitScheme_append {scheme : List Char} (h : IsScheme scheme) :
    splitScheme (scheme ++ ':' :: r) = (scheme, r) := by
  obtain ⟨c, cs, rfl, hc, hcs⟩ := h
  have hscheme : (cs ++ ':' :: r).takeWhile isSchemeChar = cs :=
    takeWhile_append_stop hcs (by simp; decide)
  unfold splitScheme
  simp only [List.cons_append, hc, if_true, hscheme]
  rw [← List.cons_append, List.drop_left]
  rfl

theorem splitAuthority_append (h : ∀ c ∈ xs, endsAuthority c = false)
    (hr : ∀ c ∈ r.head?, endsAuthority c = true) :
    splitAuthority ('/' :: '/' :: (xs ++ r)) = (xs, r) := by
  have hends : (fun c => c != '/' && c != '?' && c != '#') = fun c => !endsAuthority c := by
    funext c
    simp [endsAuthority, bne, Bool.and_assoc]
  have hxs : ∀ c ∈ xs, (!endsAuthority c) = true := by simpa using h
  have hstop : ∀ c ∈ r.head?, (!endsAuthority c) = false := by simpa using hr
  rw [splitAuthority, hends, takeWhile_append_stop hxs hstop, dropWhile_append_stop hxs hstop]

/-- A part behind its mark, if there is one. -/
def marked (mark : Char) : Option (List Char) → List Char
  | none => []
  | some q => mark :: q

theorem splitMarked_marked {mark : Char} {ends : Char → Bool} {part : Option (List Char)}
    (h : ∀ q ∈ part, ∀ c ∈ q, ends c = false) (hr : ∀ c ∈ r.head?, ends c = true)
    (hmark : ends mark = false) : splitMarked mark ends (marked mark part ++ r) = (part, r) := by
  cases part with
  | none =>
    cases r with
    | nil => rfl
    | cons c r =>
      have hne : (c == mark) = false := by
        refine beq_false_of_ne fun heq => ?_
        rw [← heq, hr c rfl] at hmark
        cases hmark
      simp [marked, splitMarked, hne]
  | some q =>
    have hq : ∀ c ∈ q, (!ends c) = true := by simpa using h q rfl
    have hstop : ∀ c ∈ r.head?, (!ends c) = false := by simpa using hr
    rw [marked, List.cons_append, splitMarked, if_pos (beq_self_eq_true mark),
      takeWhile_append_stop hq hstop, dropWhile_append_stop hq hstop]

variable {user host port suffix : List Char}

theorem not_mem_writtenHost {a : Char} (h : a ∉ host) (hopen : a ≠ '[') (hclose : a ≠ ']') :
    a ∉ writtenHost host := by
  unfold writtenHost
  split <;> simp [h, hopen, hclose]

theorem splitLast?_user (user : List Char) (h : '@' ∉ r) :
    (splitLast? '@' ((if user.isEmpty then [] else user ++ ['@']) ++ r)).getD
      ([], (if user.isEmpty then [] else user ++ ['@']) ++ r) = (user, r) := by
  cases user with
  | nil =>
    change (splitLast? '@' r).getD ([], r) = ([], r)
    rw [splitLast?_of_not_mem h]
    rfl
  | cons c user =>
    change (splitLast? '@' ((c :: user ++ ['@']) ++ r)).getD _ = _
    rw [List.append_assoc, List.singleton_append, splitLast?_append h]
    rfl

theorem hostAt_append (hopened : ':' ∈ host ∨ '[' ∉ host) (hclose : ']' ∉ suffix)
    (hsuffix : ∀ c ∈ suffix.head?, c = ':') :
    hostAt (writtenHost host ++ suffix) = writtenHost host := by
  by_cases hcolon : ':' ∈ host
  · have hwritten : writtenHost host = '[' :: host ++ [']'] := if_pos (by simpa using hcolon)
    rw [hwritten, List.append_assoc, List.singleton_append, hostAt, splitLast?_append hclose]
    rfl
  · have hwritten : writtenHost host = host := if_neg (by simpa using hcolon)
    have hbracket : '[' ∉ host := hopened.resolve_left hcolon
    rw [hwritten]
    unfold hostAt
    split
    · next hhead _ =>
      exfalso
      cases host with
      | nil => exact absurd (hsuffix '[' hhead) (by decide)
      | cons c host => exact hbracket (Option.some.inj hhead ▸ List.mem_cons_self)
    · refine takeWhile_append_stop (fun c hc => ?_) (fun c hc => by simp [hsuffix c hc])
      rw [bne_iff_ne]
      rintro rfl
      exact hcolon hc

/-- User, host and port are found where they were written. -/
theorem splitHost_append (hhost : '@' ∉ host) (hopened : ':' ∈ host ∨ '[' ∉ host)
    (hport : ∀ c ∈ port, c ≠ '@' ∧ c ≠ ']')
    (hsuffix : suffix = [] ∧ port = [] ∨ suffix = ':' :: port) :
    splitHost ((if user.isEmpty then [] else user ++ ['@']) ++ (writtenHost host ++ suffix)) =
      (user, writtenHost host, port) := by
  have hplain : ∀ c ∈ suffix, c ≠ '@' ∧ c ≠ ']' := by
    rcases hsuffix with ⟨rfl, -⟩ | rfl
    · simp
    · intro c hc
      rcases List.mem_cons.mp hc with rfl | hc
      · decide
      · exact hport c hc
  have hat : '@' ∉ writtenHost host ++ suffix := by
    rw [List.mem_append, not_or]
    exact ⟨not_mem_writtenHost hhost (by decide) (by decide), fun h => (hplain _ h).1 rfl⟩
  have hhead : ∀ c ∈ suffix.head?, c = ':' := by
    rcases hsuffix with ⟨rfl, -⟩ | rfl <;> simp
  rw [splitHost_eq (splitLast?_user user hat),
    hostAt_append hopened (fun h => (hplain _ h).2 rfl) hhead, List.drop_left]
  rcases hsuffix with ⟨rfl, rfl⟩ | rfl <;> rfl

theorem hostText_eq (u : Url) :
    u.hostText = writtenHost u.host ++ marked ':' (u.port.map intDigits) := by
  unfold hostText
  cases u.port <;> rfl

theorem writtenHost_ne_nil (h : host ≠ []) : writtenHost host ≠ [] := by
  unfold writtenHost
  split
  · exact List.cons_ne_nil _ _
  · exact h

theorem text_toList {u : Url} (hscheme : u.scheme ≠ []) (hhost : u.host ≠ []) :
    u.text.toList = u.scheme ++ ':' :: '/' :: '/' :: (u.authority ++
      (u.path ++ (marked '?' u.query ++ marked '#' u.fragment))) := by
  have hauthority : u.authority ≠ [] := by
    rw [authority, hostText_eq]
    simp [writtenHost_ne_nil hhost]
  unfold text
  rw [String.toList_ofList]
  cases u.query <;> cases u.fragment <;> simp [marked, hscheme, hauthority]

theorem splitHost_authority {u : Url} (h : IsSeparable u) :
    splitHost u.authority = (u.user, writtenHost u.host, portText u.port) := by
  have hport : ∀ c ∈ portText u.port, c ≠ '@' ∧ c ≠ ']' := by
    intro c hc
    rcases mem_portText hc with rfl | hd
    · decide
    · constructor
      · rintro rfl
        cases hd
      · rintro rfl
        cases hd
  rw [authority, hostText_eq]
  refine splitHost_append (fun hm => (h.host _ hm).2 rfl) h.opened hport ?_
  cases u.port with
  | none => exact .inl ⟨rfl, rfl⟩
  | some n => exact .inr rfl

theorem not_endsAuthority_of_isDigit (h : c.isDigit = true) : endsAuthority c = false := by
  simp only [endsAuthority, Bool.or_eq_false_iff, beq_eq_false_iff_ne]
  refine ⟨⟨?_, ?_⟩, ?_⟩ <;>
    · rintro rfl
      cases h

/-- What holds of user and host, of digits and of the marks between the parts holds of all that is
written before the path. -/
theorem forall_mem_authority {P : Char → Prop} {u : Url} (huser : ∀ c ∈ u.user, P c)
    (hhost : ∀ c ∈ u.host, P c) (hdigit : ∀ c, c.isDigit = true → P c)
    (hmarks : ∀ c ∈ ['@', '[', ']', ':', '-'], P c) : ∀ c ∈ u.authority, P c := by
  intro c hc
  rw [authority, hostText_eq, List.mem_append, List.mem_append] at hc
  rcases hc with hc | hc | hc
  · split at hc
    · cases hc
    · rcases List.mem_append.mp hc with hc | hc
      · exact huser c hc
      · exact hmarks c (by simp [List.mem_singleton.mp hc])
  · unfold writtenHost at hc
    split at hc
    · have hc : c = '[' ∨ c ∈ u.host ∨ c = ']' := by simpa using hc
      rcases hc with rfl | hc | rfl
      · exact hmarks '[' (by simp)
      · exact hhost c hc
      · exact hmarks ']' (by simp)
    · exact hhost c hc
  · cases hp : u.port with
    | none =>
      rw [hp] at hc
      cases hc
    | some n =>
      rw [hp] at hc
      rcases List.mem_cons.mp hc with rfl | hc
      · exact hmarks ':' (by simp)
      · rcases mem_intDigits hc with rfl | hd
        · exact hmarks '-' (by simp)
        · exact hdigit c hd

theorem not_endsAuthority_of_mem_authority {u : Url} (h : IsSeparable u) :
    ∀ c ∈ u.authority, endsAuthority c = false :=
  forall_mem_authority (fun c hc => (h.user c hc).1) (fun c hc => (h.host c hc).1)
    (fun _ => not_endsAuthority_of_isDigit) (by simp [endsAuthority])

theorem cut_text {u : Url} (h : IsSeparable u) : cut u.text.toList = u.pieces := by
  have hends : ∀ c ∈ (u.path ++ (marked '?' u.query ++ marked '#' u.fragment)).head?,
      endsAuthority c = true := by
    rcases h.rooted with hnil | hslash
    · rw [hnil, List.nil_append]
      cases u.query <;> cases u.fragment <;> simp [marked, endsAuthority]
    · rw [List.head?_append, hslash]
      simp [endsAuthority]
  have hpath : ∀ c ∈ u.path, (c != '?' && c != '#') = true := by
    intro c hc
    simpa using h.path c hc
  have hstop : ∀ c ∈ (marked '?' u.query ++ marked '#' u.fragment).head?,
      (c != '?' && c != '#') = false := by
    cases u.query <;> cases u.fragment <;> simp [marked]
  have hquery : splitMarked '?' (· == '#') (marked '?' u.query ++ marked '#' u.fragment) =
      (u.query, marked '#' u.fragment) := by
    refine splitMarked_marked (fun q hq c hc => ?_) ?_ rfl
    · exact beq_false_of_ne fun heq => h.query q hq (heq ▸ hc)
    · cases u.fragment <;> simp [marked]
  have hfragment : splitMarked '#' (fun _ => false) (marked '#' u.fragment) = (u.fragment, []) := by
    have hmarked : splitMarked '#' (fun _ => false) (marked '#' u.fragment ++ []) =
        (u.fragment, []) := splitMarked_marked (by simp) (by simp) rfl
    rwa [List.append_nil] at hmarked
  rw [text_toList h.scheme.ne_nil h.named, cut, splitScheme_append h.scheme]
  dsimp only
  rw [splitAuthority_append (not_endsAuthority_of_mem_authority h) hends]
  dsimp only
  rw [takeWhile_append_stop hpath hstop, dropWhile_append_stop hpath hstop, hquery]
  dsimp only
  rw [hfragment, splitHost_authority h]
  rfl

end AlertRelay.Url
