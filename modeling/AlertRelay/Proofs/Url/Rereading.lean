import AlertRelay.Proofs.Url.Host
import AlertRelay.Proofs.Url.Pieces

/-!
What becomes of a URL that is read again from its own text. Its parts stay as they are, apart from
the host and the port.
-/

namespace AlertRelay.Url

open AlertRelay.Number AlertRelay.Text

variable {u v : Url} {c : Char}

/-- A URL with scheme and host whose parts are in normal form. -/
structure IsNormal (u : Url) : Prop where
  scheme : IsScheme u.scheme
  small : lowerAscii u.scheme = u.scheme
  user : ∀ c ∈ u.user, Kept userSafe c
  named : u.host ≠ []
  host : (isEightPart u.host = true ∧
    ∀ c ∈ u.host, endsAuthority c = false ∧ c ≠ '@' ∧ isControl c = false) ∨ IsPlainHost u.host
  port : ∀ n ∈ u.port, IsShort n
  path : ∃ p, IsRooted p ∧ u.path = escape pathSafe (removeDots p)
  query : ∀ q ∈ u.query, ∀ c ∈ q, Kept querySafe c
  fragment : ∀ f ∈ u.fragment, ∀ c ∈ f, Kept fragmentSafe c

theorem rooted_of_checkPath {path : List Char} {hasScheme : Bool}
    (h : checkPath path hasScheme true = .ok ()) : IsRooted path := by
  unfold checkPath at h
  split at h
  · cases h
  · next hfits =>
    by_cases hnil : path = []
    · exact .inl hnil
    · refine .inr ?_
      simpa [hnil] using hfits

theorem checkPath_of_rooted {path : List Char} (h : IsRooted path) (hasAuthority : Bool) :
    checkPath path true hasAuthority = .ok () := by
  unfold checkPath
  rcases h with rfl | h <;> simp [*]

theorem hasAuthority_of_host (h : u.host ≠ []) : u.hasAuthority = true := by
  simp [hasAuthority, h]

theorem mem_map_escape {safe : Char → Bool} (hs : IsSafeSet safe) {part : Option (List Char)} :
    ∀ q ∈ part.map (escape safe), ∀ c ∈ q, Kept safe c := by
  intro q hq c hc
  obtain ⟨p, -, rfl⟩ := Option.map_eq_some_iff.mp hq
  exact hs.kept_of_mem_escape hc

theorem map_escape_of_kept {safe : Char → Bool} (hs : IsSafeSet safe) {part : Option (List Char)}
    (h : ∀ q ∈ part, ∀ c ∈ q, Kept safe c) : part.map (escape safe) = part := by
  cases part with
  | none => rfl
  | some q => exact congrArg some (hs.escape_of_kept (h q rfl))

/-- What is read as a URL of the web is in normal form. -/
theorem isNormal_of_parse {s : String} (h : parse s = .ok u) (hname : u.host ≠ [])
    (hscheme : u.scheme = "http".toList ∨ u.scheme = "https".toList) : IsNormal u := by
  obtain ⟨-, hcontrol, hread⟩ := parse_eq_ok_iff.mp h
  have hps := Pieces.read_eq_ok_iff.mp hread
  have hauthority := hasAuthority_of_host hname
  have hfits := hps.pathFits
  have hpath := hps.path
  rw [hauthority] at hfits
  rw [hauthority, Bool.or_true, if_pos rfl] at hpath
  refine {
    scheme := ?_
    small := ?_
    user := ?_
    named := hname
    host := ?_
    port := readPort_isShort hps.port
    path := ⟨_, rooted_of_checkPath hfits, hpath⟩
    query := ?_
    fragment := ?_ }
  · rcases hscheme with h | h <;> rw [h]
    · exact ⟨'h', "ttp".toList, rfl, rfl, List.all_eq_true.mp rfl⟩
    · exact ⟨'h', "ttps".toList, rfl, rfl, List.all_eq_true.mp rfl⟩
  · rcases hscheme with h | h <;> rw [h] <;> decide
  · rw [hps.user]
    exact fun c => isSafeSet_userSafe.kept_of_mem_escape
  · refine (readHost_eq_ok hps.host).imp_left fun ⟨htext, height⟩ => ⟨height, fun c hc => ?_⟩
    have hmem : c ∈ (cut s.toList).host := by
      rw [htext]
      simp [hc]
    obtain ⟨hs, hends, hat⟩ := mem_host_of_cut hmem
    exact ⟨hends, hat, hcontrol c hs⟩
  · rw [hps.query]
    exact mem_map_escape isSafeSet_querySafe
  · rw [hps.fragment]
    exact mem_map_escape isSafeSet_fragmentSafe

theorem not_isControl_of_printable (h : 0x20 ≤ c.toNat ∧ c.toNat < 0x7F) : isControl c = false := by
  unfold isControl
  simp
  omega

theorem not_isControl_of_kept {safe : Char → Bool} (hs : IsSafeSet safe) (h : Kept safe c) :
    isControl c = false :=
  not_isControl_of_printable (hs.printable_of_kept h)

theorem not_isControl_of_isAlphanum (h : c.isAlphanum = true) : isControl c = false :=
  not_isControl_of_printable (printable_of_isUnreserved (isUnreserved_of_isAlphanum h))

theorem not_isControl_of_isSchemeChar (h : isSchemeChar c = true) : isControl c = false := by
  simp only [isSchemeChar, Bool.or_eq_true, beq_iff_eq] at h
  rcases h with ((h | rfl) | rfl) | rfl
  · exact not_isControl_of_isAlphanum h
  all_goals rfl

theorem not_endsAuthority_of_kept {safe : Char → Bool} (hslash : ¬ Kept safe '/')
    (hquestion : ¬ Kept safe '?') (hhash : ¬ Kept safe '#') (h : Kept safe c) :
    endsAuthority c = false := by
  simp only [endsAuthority, Bool.or_eq_false_iff, beq_eq_false_iff_ne]
  exact ⟨⟨fun heq => hslash (heq ▸ h), fun heq => hquestion (heq ▸ h)⟩, fun heq => hhash (heq ▸ h)⟩

theorem IsPlainHost.not_mem {host : List Char} (h : IsPlainHost host) (hc : ¬ Kept hostSafe c) :
    c ∉ host := fun hm => hc (h c hm)

namespace IsNormal

theorem mem_path (h : IsNormal u) (hc : c ∈ u.path) : Kept pathSafe c := by
  obtain ⟨p, -, hp⟩ := h.path
  rw [hp] at hc
  exact isSafeSet_pathSafe.kept_of_mem_escape hc

theorem mem_host (h : IsNormal u) (hc : c ∈ u.host) :
    endsAuthority c = false ∧ c ≠ '@' ∧ isControl c = false := by
  rcases h.host with ⟨-, hhost⟩ | hplain
  · exact hhost c hc
  · refine ⟨?_, fun heq => ?_, not_isControl_of_kept isSafeSet_hostSafe (hplain c hc)⟩
    · exact not_endsAuthority_of_kept (by decide) (by decide) (by decide) (hplain c hc)
    · exact hplain.not_mem (by decide) (heq ▸ hc)

theorem isSeparable (h : IsNormal u) : IsSeparable u where
  scheme := h.scheme
  user c hc := by
    refine ⟨?_, fun heq => absurd (heq ▸ h.user c hc) (by decide)⟩
    exact not_endsAuthority_of_kept (by decide) (by decide) (by decide) (h.user c hc)
  named := h.named
  host c hc := ⟨(h.mem_host hc).1, (h.mem_host hc).2.1⟩
  opened := by
    rcases h.host with ⟨height, -⟩ | hplain
    · exact .inl (colon_mem_of_isEightPart height)
    · exact .inr (hplain.not_mem (by decide))
  rooted := by
    obtain ⟨p, hrooted, hp⟩ := h.path
    exact hp ▸ isRooted_escape (isRooted_removeDots hrooted)
  path c hc := ⟨fun heq => absurd (heq ▸ h.mem_path hc) (by decide),
    fun heq => absurd (heq ▸ h.mem_path hc) (by decide)⟩
  query q hq hc := absurd (h.query q hq _ hc) (by decide)

theorem not_isControl_of_mem_authority (h : IsNormal u) :
    ∀ c ∈ u.authority, isControl c = false :=
  forall_mem_authority (fun c hc => not_isControl_of_kept isSafeSet_userSafe (h.user c hc))
    (fun _ hc => (h.mem_host hc).2.2)
    (fun _ hd => not_isControl_of_isAlphanum (by simp [Char.isAlphanum, hd])) (by simp [isControl])

theorem not_isControl_of_mem_marked {safe : Char → Bool} (hs : IsSafeSet safe) {mark : Char}
    (hmark : isControl mark = false) {part : Option (List Char)}
    (h : ∀ q ∈ part, ∀ c ∈ q, Kept safe c) (hc : c ∈ marked mark part) : isControl c = false := by
  cases part with
  | none => cases hc
  | some q =>
    rcases List.mem_cons.mp hc with rfl | hc
    · exact hmark
    · exact not_isControl_of_kept hs (h q rfl c hc)

theorem not_isControl (h : IsNormal u) (hc : c ∈ u.text.toList) : isControl c = false := by
  rw [text_toList h.scheme.ne_nil h.named] at hc
  simp only [List.mem_append, List.mem_cons] at hc
  rcases hc with hc | rfl | rfl | rfl | hc | hc | hc | hc
  · obtain ⟨a, as, hscheme, ha, has⟩ := h.scheme
    rw [hscheme] at hc
    rcases List.mem_cons.mp hc with rfl | hc
    · exact not_isControl_of_isAlphanum (by simp [Char.isAlphanum, ha])
    · exact not_isControl_of_isSchemeChar (has c hc)
  · rfl
  · rfl
  · rfl
  · exact h.not_isControl_of_mem_authority c hc
  · exact not_isControl_of_kept isSafeSet_pathSafe (h.mem_path hc)
  · exact not_isControl_of_mem_marked isSafeSet_querySafe rfl h.query hc
  · exact not_isControl_of_mem_marked isSafeSet_fragmentSafe rfl h.fragment hc

theorem standFor_iff (h : IsNormal u) : u.pieces.StandFor v ↔
    readHost (writtenHost u.host) = .ok v.host ∧
      v = { u with
        host := v.host
        port := u.port.filter fun n => defaultPort? u.scheme != some n } := by
  have hnonempty : (!u.pieces.scheme.isEmpty) = true := by simp [pieces, h.scheme.ne_nil]
  obtain ⟨p, hrooted, hp⟩ := h.path
  have hpath : escape pathSafe (removeDots u.path) = u.path := by
    rw [hp, removeDots_escape, isSafeSet_pathSafe.escape_escape]
  have huser : escape userSafe u.user = u.user := isSafeSet_userSafe.escape_of_kept h.user
  have hport : readPort u.scheme (portText u.port) =
      .ok (u.port.filter fun n => defaultPort? u.scheme != some n) := readPort_portText h.port
  have hquery := map_escape_of_kept isSafeSet_querySafe h.query
  have hfragment := map_escape_of_kept isSafeSet_fragmentSafe h.fragment
  constructor
  · intro hv
    refine ⟨hv.host, ?_⟩
    have hpath' := hv.path
    rw [hnonempty, Bool.true_or, if_pos rfl] at hpath'
    have hport' := hv.port.symm.trans hport
    obtain ⟨scheme, user, host, port, path, query, fragment⟩ := v
    obtain rfl : scheme = u.scheme := hv.scheme.trans h.small
    obtain rfl : user = u.user := hv.user.trans huser
    obtain rfl : port = u.port.filter _ := Except.ok.inj hport'
    obtain rfl : path = u.path := hpath'.trans hpath
    obtain rfl : query = u.query := hv.query.trans hquery
    obtain rfl : fragment = u.fragment := hv.fragment.trans hfragment
    rfl
  · rintro ⟨hhost, hv⟩
    generalize v.host = host at hhost hv
    subst hv
    exact {
      scheme := h.small.symm
      user := huser.symm
      host := hhost
      port := hport
      pathFits := by
        rw [hnonempty]
        exact checkPath_of_rooted h.isSeparable.rooted _
      path := by
        rw [hnonempty, Bool.true_or, if_pos rfl]
        exact hpath.symm
      query := hquery.symm
      fragment := hfragment.symm }

/-- The URL that is read from the text of another one differs from it in host and port at most. -/
theorem parse_text_iff (h : IsNormal u) : parse u.text = .ok v ↔
    u.text.length ≤ lengthLimit ∧ readHost (writtenHost u.host) = .ok v.host ∧
      v = { u with
        host := v.host
        port := u.port.filter fun n => defaultPort? u.scheme != some n } := by
  rw [parse_eq_ok_iff, cut_text h.isSeparable, Pieces.read_eq_ok_iff, h.standFor_iff,
    String.length_toList]
  exact ⟨fun ⟨hshort, _, hv⟩ => ⟨hshort, hv⟩,
    fun ⟨hshort, hv⟩ => ⟨hshort, fun _ => h.not_isControl, hv⟩⟩

end IsNormal

/-- A URL that its own text stands for. -/
structure IsStable (u : Url) : Prop where
  short : u.text.length ≤ lengthLimit
  /-- Its host is an address of four parts if it looks like one. -/
  address : looksFourPart u.host = true → isFourPart u.host = true
  /-- No letter of its host is a capital, unless that is an address of eight parts. -/
  small : ':' ∈ u.host ∨ lowerAscii u.host = u.host
  /-- Its port does not go without saying. -/
  port : ∀ n ∈ u.port, defaultPort? u.scheme ≠ some n

theorem marked_inj {mark : Char} {part part' : Option (List Char)}
    (h : marked mark part = marked mark part') : part = part' := by
  cases part with
  | none =>
    cases part' with
    | none => rfl
    | some q => cases h
  | some q =>
    cases part' with
    | none => cases h
    | some q' => exact congrArg some (List.cons.inj h).2

/-- A host of the same length, in brackets as the other one or without them as that, and a port
are found again in what is written. -/
theorem hostText_inj (hlength : v.host.length = u.host.length)
    (hcolon : ':' ∈ v.host ↔ ':' ∈ u.host) (h : v.hostText = u.hostText) :
    v.host = u.host ∧ v.port.map intDigits = u.port.map intDigits := by
  rw [hostText_eq, hostText_eq] at h
  by_cases hc : ':' ∈ u.host
  · have hv : writtenHost v.host = '[' :: v.host ++ [']'] := if_pos (by simpa using hcolon.mpr hc)
    have hu : writtenHost u.host = '[' :: u.host ++ [']'] := if_pos (by simpa using hc)
    rw [hv, hu] at h
    obtain ⟨hhost, hport⟩ := List.append_inj h (by simp [hlength])
    exact ⟨(List.cons.inj (List.append_cancel_right hhost)).2, marked_inj hport⟩
  · have hv : writtenHost v.host = v.host := if_neg (by simpa using mt hcolon.mp hc)
    have hu : writtenHost u.host = u.host := if_neg (by simpa using hc)
    rw [hv, hu] at h
    obtain ⟨hhost, hport⟩ := List.append_inj h hlength
    exact ⟨hhost, marked_inj hport⟩

/-- Where two texts differ in host and port at most, host and port are the same text. -/
theorem hostText_of_text_eq {host : List Char} {port : Option Int} (hscheme : u.scheme ≠ [])
    (hhost : host ≠ []) (hu : u.host ≠ []) (h : text { u with host, port } = u.text) :
    hostText { u with host, port } = u.hostText := by
  have htoList := congrArg String.toList h
  rw [text_toList (u := { u with host, port }) hscheme hhost, text_toList hscheme hu] at htoList
  simp only [List.append_cancel_left_eq, List.append_cancel_right_eq, List.cons.injEq,
    true_and] at htoList
  exact List.append_cancel_left htoList

namespace IsNormal

theorem readHost_writtenHost_iff (h : IsNormal u) {host : List Char} :
    readHost (writtenHost u.host) = .ok host ↔
      (looksFourPart u.host = true → isFourPart u.host = true) ∧
        host = if ':' ∈ u.host then u.host else lowerAscii u.host := by
  rcases h.host with ⟨height, -⟩ | hplain
  · have hcolon := colon_mem_of_isEightPart height
    have hlooks : looksFourPart u.host ≠ true := fun hlooks =>
      (mem_of_looksFourPart hlooks hcolon).elim (absurd · (by decide)) (absurd · (by decide))
    have hwritten : writtenHost u.host = '[' :: (u.host ++ [']']) := if_pos (by simpa using hcolon)
    rw [hwritten, readHost_bracketed height, if_pos hcolon]
    exact ⟨fun heq => ⟨fun hl => absurd hl hlooks, (Except.ok.inj heq).symm⟩,
      fun heq => heq.2 ▸ rfl⟩
  · have hcolon : ':' ∉ u.host := hplain.not_mem (by decide)
    have hwritten : writtenHost u.host = u.host := if_neg (by simpa using hcolon)
    rw [hwritten, readHost_plain_iff h.named hplain, if_neg hcolon]

/-- A stable URL is what its text stands for. -/
theorem parse_text (h : IsNormal u) (hs : u.IsStable) : parse u.text = .ok u := by
  refine h.parse_text_iff.mpr ⟨hs.short, h.readHost_writtenHost_iff.mpr ⟨hs.address, ?_⟩, ?_⟩
  · by_cases hcolon : ':' ∈ u.host
    · rw [if_pos hcolon]
    · rw [if_neg hcolon, hs.small.resolve_left hcolon]
  · have hport : (u.port.filter fun n => defaultPort? u.scheme != some n) = u.port := by
      cases hp : u.port with
      | none => rfl
      | some n => simp [Option.filter, hs.port n hp]
    rw [hport]

/-- A URL whose text stands for one with the same text is stable. -/
theorem isStable (h : IsNormal u) (hparse : parse u.text = .ok v) (htext : v.text = u.text) :
    u.IsStable := by
  obtain ⟨hshort, hread, hv⟩ := h.parse_text_iff.mp hparse
  generalize v.host = host at hread hv
  subst hv
  obtain ⟨haddress, hhost⟩ := h.readHost_writtenHost_iff.mp hread
  -- Reading changes neither the length of a host nor whether it needs brackets, so that it can be
  -- told from the port in the text.
  have hlength : host.length = u.host.length := by
    rw [hhost]
    split
    · rfl
    · exact List.length_map Char.toLower
  have hcolon : ':' ∈ host ↔ ':' ∈ u.host := by
    rw [hhost]
    split
    · rfl
    · next hc =>
      have hplain : IsPlainHost u.host :=
        h.host.resolve_left fun height => hc (colon_mem_of_isEightPart height.1)
      exact ⟨fun hm => absurd (hplain.lowerAscii _ hm) (by decide), fun hm => absurd hm hc⟩
  have hnamed : host ≠ [] := by
    rw [← List.length_pos_iff, hlength, List.length_pos_iff]
    exact h.named
  obtain ⟨hsame, hport⟩ :=
    hostText_inj hlength hcolon (hostText_of_text_eq h.scheme.ne_nil hnamed h.named htext)
  refine ⟨hshort, haddress, ?_, fun n hn hdefault => ?_⟩
  · by_cases hc : ':' ∈ u.host
    · exact .inl hc
    · rw [if_neg hc] at hhost
      exact .inr (hhost.symm.trans hsame)
  · rw [Option.mem_def.mp hn] at hport
    simp [Option.filter, hdefault] at hport

theorem parse_text_self_iff (h : IsNormal u) : parse u.text = .ok u ↔ u.IsStable :=
  ⟨fun hparse => h.isStable hparse rfl, h.parse_text⟩

end IsNormal

end AlertRelay.Url
