import AlertRelay.Config.Files

/-!
Files that were written are found again, as long as nothing is written in their place or on the way
to them.
-/

namespace AlertRelay.Config

/-- The names that a file is written under. -/
def namesOf (path : String) : List String := (pathParts path).foldl Tree.addPart []

/-- A path that leads to these names from the working directory, and never back. -/
structure LeadsTo (path : String) (names : List String) : Prop where
  parts : pathParts path = names
  named : names ≠ []
  forward : backPart ∉ names
  relative : pathRoot path = ""
  short : ∀ p ∈ names, p.utf8ByteSize ≤ partLimit
  inLimit : (plainPath path).utf8ByteSize ≤ pathLimit
  spelled : '\x00' ∉ path.toList

namespace Tree

/-- A file is there, and what leads to it are directories. -/
structure Holds (t : Tree) (names : List String) (text : String) : Prop where
  file : t.lookup names = some text
  way : ∀ ns, ns <+: names → ns ≠ names → t.lookup ns = none

variable {t : Tree} {names ns : List String} {path text : String}

theorem lookup_filter_ne (h : ns ≠ names) :
    List.lookup ns (t.filter fun f => f.1 != names) = t.lookup ns := by
  induction t with
  | nil => rfl
  | cons f t ih =>
    rw [List.filter_cons, List.lookup_cons]
    by_cases hf : f.1 = names
    · have hne : (ns == f.1) = false := by simpa [hf] using h
      rw [if_neg (by simpa using hf), ih, hne]
    · rw [if_pos (by simpa using hf), List.lookup_cons, ih]

theorem lookup_write (t : Tree) (path text : String) (ns : List String) :
    (t.write path text).lookup ns = if ns = namesOf path then some text else t.lookup ns := by
  change List.lookup ns ((namesOf path, text) :: t.filter fun f => f.1 != namesOf path) = _
  rw [List.lookup_cons]
  by_cases h : ns = namesOf path
  · rw [if_pos h, beq_iff_eq.mpr h]
  · rw [if_neg h, beq_false_of_ne h, lookup_filter_ne h]

theorem holds_write (hway : ∀ ns, ns <+: namesOf path → ns ≠ namesOf path → t.lookup ns = none)
    (text : String) : (t.write path text).Holds (namesOf path) text := by
  refine ⟨?_, fun ns hns hne => ?_⟩
  · rw [lookup_write, if_pos rfl]
  · rw [lookup_write, if_neg hne, hway ns hns hne]

theorem Holds.write (h : t.Holds names text) (hapart : ¬ namesOf path <+: names) (other : String) :
    (t.write path other).Holds names text := by
  have hne (ns : List String) (hns : ns <+: names) : ns ≠ namesOf path := by
    rintro rfl
    exact hapart hns
  refine ⟨?_, fun ns hns hother => ?_⟩
  · rw [lookup_write, if_neg (hne names List.prefix_rfl), h.file]
  · rw [lookup_write, if_neg (hne ns hns), h.way ns hns hother]

theorem Holds.lookUp (h : t.Holds names text) : t.lookUp names = .file text := by
  rw [Tree.lookUp, h.file]

theorem Holds.lookUp_way (h : t.Holds names text) (hns : ns <+: names) (hne : ns ≠ names) :
    t.lookUp ns = .directory := by
  obtain ⟨before, after, rfl, -⟩ := List.lookup_eq_some_iff.mp h.file
  rw [Tree.lookUp, h.way ns hns hne]
  refine if_pos ?_
  simp [hasDirectory, hns, hne]

/-- Follows what is left of the way to a file. -/
theorem Holds.follow {rest : List String} (h : t.Holds (ns ++ rest) text) (hrest : rest ≠ [])
    (hforward : backPart ∉ rest) (hshort : ∀ p ∈ rest, p.utf8ByteSize ≤ partLimit) :
    t.follow (.inside ns) rest = .file text := by
  induction rest generalizing ns with
  | nil => contradiction
  | cons p rest ih =>
    rw [List.mem_cons, not_or] at hforward
    have hle := hshort p List.mem_cons_self
    unfold Tree.follow
    rw [if_neg (by simpa using Ne.symm hforward.1), if_neg (Nat.not_lt.mpr hle)]
    dsimp only
    rw [List.append_cons] at h
    by_cases hr : rest = []
    · subst hr
      rw [List.append_nil] at h
      rw [h.lookUp]
    · have hway := h.lookUp_way (List.prefix_append _ _) (by simpa using hr)
      rw [hway]
      exact ih h hr hforward.2 fun q hq => hshort q (List.mem_cons_of_mem p hq)

theorem Holds.find (h : t.Holds names text) (hleads : LeadsTo path names) :
    t.find path = .file text := by
  unfold Tree.find
  rw [if_neg (by simpa using hleads.spelled), if_neg (Nat.not_lt.mpr hleads.inLimit),
    hleads.relative, hleads.parts]
  exact Holds.follow h hleads.named hleads.forward hleads.short

end Tree

end AlertRelay.Config
