import AlertRelay.Proofs.Config.Loading

/-!
The cache of settings over any number of uses. What it holds is what the last load gave that was not
undone by a reset, however files change and loads fail in between.
-/

namespace AlertRelay.Config

/-- What a program does: it changes a file, or asks the cache for something. -/
inductive Use where
  | write (path text : String)
  | reset
  | load (path : Option String)
  | get
  deriving DecidableEq, Repr

/-- What a use answers, if it asks for settings. -/
abbrev Answer := Option (Except LoadError Loaded)

/-- The files and the cache that a program works with. -/
structure Session where
  tree : Tree
  cache : Cache

namespace Session

/-- A failure leaves the cache as it is. -/
def settle (s : Session) : Except LoadError (Loaded × Cache) → Answer × Session
  | .ok (l, cache) => (some (.ok l), { s with cache })
  | .error e => (some (.error e), s)

def step (s : Session) : Use → Answer × Session
  | .write path text => (none, { s with tree := s.tree.write path text })
  | .reset => (none, { s with cache := s.cache.reset })
  | .load path => s.settle (s.cache.load s.tree.find path)
  | .get => s.settle (s.cache.get s.tree.find)

def run (s : Session) : List Use → List Answer × Session
  | [] => ([], s)
  | u :: rest =>
    let (as, t) := (s.step u).2.run rest
    ((s.step u).1 :: as, t)

/-- A program that has done nothing yet. -/
def start (t : Tree) : Session := ⟨t, .empty⟩

end Session

/-!
The uses themselves, without a cache: which of them load settings, and which load is the last.
-/

/-- The files there are after some uses. -/
def treeAfter (t : Tree) (us : List Use) : Tree :=
  us.foldl (fun t u => match u with | .write path text => t.write path text | _ => t) t

section Uses

variable (t : Tree) (us : List Use)

/-- The files that the use at place `i` finds. -/
def filesAt (i : Nat) : Files := (treeAfter t (us.take i)).find

/-- The use at place `i` loads settings: it is a load, or asks for settings when every load before
it is undone by a reset, and what it reads is valid. -/
def Loads (i : Nat) : Prop :=
  match us[i]? with
  | some (.load path) => ∃ x, Reads (filesAt t us i) path (.ok x)
  | some .get => (∃ x, Reads (filesAt t us i) none (.ok x)) ∧
      ∀ j, ∀ _ : j < i, Loads j → ∃ k, j < k ∧ k < i ∧ us[k]? = some .reset
  | _ => False
termination_by i

/-- Every load before place `i` is undone. -/
def Unloaded (i : Nat) : Prop :=
  ∀ j < i, Loads t us j → ∃ k, j < k ∧ k < i ∧ us[k]? = some .reset

/-- The last load before place `i` is at place `j`, and is not undone. -/
structure IsLatest (i j : Nat) : Prop where
  lt : j < i
  loads : Loads t us j
  last : ∀ k, j < k → k < i → us[k]? ≠ some .reset ∧ ¬ Loads t us k

variable {t us} {i j : Nat} {u : Use}

theorem treeAfter_succ (hu : us[i]? = some u) :
    treeAfter t (us.take (i + 1)) = treeAfter (treeAfter t (us.take i)) [u] := by
  rw [List.take_add_one, hu, Option.toList_some]
  exact List.foldl_append

/-- A file that was written stays while nothing is written in its place or on the way to it. -/
theorem holds_treeAfter {path text : String} (hu : us[j]? = some (.write path text))
    (hway : ∀ ns, ns <+: namesOf path → ns ≠ namesOf path →
      (treeAfter t (us.take j)).lookup ns = none)
    (hj : j < i) (hapart : ∀ k other text', j < k → k < i → us[k]? = some (.write other text') →
      ¬ namesOf other <+: namesOf path) :
    (treeAfter t (us.take i)).Holds (namesOf path) text := by
  induction i with
  | zero => exact absurd hj (Nat.not_lt_zero j)
  | succ i ih =>
    obtain hlt | rfl := Nat.lt_succ_iff_lt_or_eq.mp hj
    · have hholds := ih hlt fun k other text' hjk hki =>
        hapart k other text' hjk (Nat.lt_succ_of_lt hki)
      cases hi : us[i]? with
      | none =>
        rw [List.take_add_one, hi, Option.toList_none, List.append_nil]
        exact hholds
      | some u =>
        rw [treeAfter_succ hi]
        cases u with
        | write other text' =>
          exact hholds.write (hapart i other text' hlt (Nat.lt_succ_self i) hi) text'
        | reset | load | get => exact hholds
    · rw [treeAfter_succ hu]
      exact Tree.holds_write hway text

theorem loads_iff : Loads t us i ↔
    match us[i]? with
    | some (.load path) => ∃ x, Reads (filesAt t us i) path (.ok x)
    | some .get => (∃ x, Reads (filesAt t us i) none (.ok x)) ∧ Unloaded t us i
    | _ => False := by
  rw [Loads]
  rfl

theorem loads_load {path : Option String} (hu : us[i]? = some (.load path)) :
    Loads t us i ↔ ∃ x, Reads (filesAt t us i) path (.ok x) := by
  rw [loads_iff, hu]

theorem loads_get (hu : us[i]? = some .get) :
    Loads t us i ↔ (∃ x, Reads (filesAt t us i) none (.ok x)) ∧ Unloaded t us i := by
  rw [loads_iff, hu]

theorem not_loads_write {path text : String} (hu : us[i]? = some (.write path text)) :
    ¬ Loads t us i := by
  rw [loads_iff, hu]
  exact id

theorem not_loads_reset (hu : us[i]? = some .reset) : ¬ Loads t us i := by
  rw [loads_iff, hu]
  exact id

theorem IsLatest.not_unloaded (h : IsLatest t us i j) : ¬ Unloaded t us i := by
  intro hn
  obtain ⟨k, hjk, hki, hk⟩ := hn j h.lt h.loads
  exact (h.last k hjk hki).1 hk

theorem IsLatest.unique {j' : Nat} (h : IsLatest t us i j) (h' : IsLatest t us i j') : j = j' := by
  obtain hlt | heq | hlt := Nat.lt_trichotomy j j'
  · exact absurd h'.loads (h.last j' hlt h'.lt).2
  · exact heq
  · exact absurd h.loads (h'.last j hlt h.lt).2

theorem isLatest_of_loads (h : Loads t us i) : IsLatest t us (i + 1) i :=
  ⟨Nat.lt_succ_self i, h, fun k _ _ => by omega⟩

theorem IsLatest.succ (h : IsLatest t us i j) (hr : us[i]? ≠ some .reset) (hl : ¬ Loads t us i) :
    IsLatest t us (i + 1) j := by
  refine ⟨Nat.lt_succ_of_lt h.lt, h.loads, fun k hjk hki => ?_⟩
  obtain hlt | rfl := Nat.lt_succ_iff_lt_or_eq.mp hki
  · exact h.last k hjk hlt
  · exact ⟨hr, hl⟩

theorem Unloaded.succ (h : Unloaded t us i) (hl : ¬ Loads t us i) : Unloaded t us (i + 1) := by
  intro j hj hloads
  obtain hlt | rfl := Nat.lt_succ_iff_lt_or_eq.mp hj
  · obtain ⟨k, hjk, hki, hk⟩ := h j hlt hloads
    exact ⟨k, hjk, Nat.lt_succ_of_lt hki, hk⟩
  · exact absurd hloads hl

theorem unloaded_of_reset (hr : us[i]? = some .reset) : Unloaded t us (i + 1) := by
  intro j hj hloads
  obtain hlt | rfl := Nat.lt_succ_iff_lt_or_eq.mp hj
  · exact ⟨i, hlt, Nat.lt_succ_self i, hr⟩
  · exact absurd hloads (not_loads_reset hr)

/-- Either there is a last load that is not undone, or all of them are. -/
theorem unloaded_iff : Unloaded t us i ↔ ∀ j, ¬ IsLatest t us i j := by
  constructor
  · exact fun h j hj => hj.not_unloaded h
  · intro h
    induction i with
    | zero => exact fun j hj => absurd hj (Nat.not_lt_zero j)
    | succ i ih =>
      by_cases hl : Loads t us i
      · exact absurd (isLatest_of_loads hl) (h i)
      · by_cases hr : us[i]? = some .reset
        · exact unloaded_of_reset hr
        · exact (ih fun j hj => h j (hj.succ hr hl)).succ hl

end Uses

/-!
The session at each place of a run.
-/

namespace Session

variable (s : Session) (us vs : List Use)

theorem run_append : s.run (us ++ vs) =
    ((s.run us).1 ++ ((s.run us).2.run vs).1, ((s.run us).2.run vs).2) := by
  induction us generalizing s with
  | nil => rfl
  | cons u us ih => simp [run, ih]

theorem run_getElem? (i : Nat) :
    (s.run us).1[i]? = us[i]?.map fun u => ((s.run (us.take i)).2.step u).1 := by
  induction us generalizing s i with
  | nil => rfl
  | cons u us ih =>
    cases i with
    | zero => rfl
    | succ i => simp [run, ih]

variable {s} {path : Option String}

theorem step_load_ok {x : Settings} (h : readSettings s.tree.find path = .ok x) :
    s.step (.load path) = (some (.ok ⟨x, s.cache.next⟩),
      { s with cache := ⟨some ⟨x, s.cache.next⟩, s.cache.next + 1⟩ }) := by
  simp [step, Cache.load, h, settle]

theorem step_load_error {e : LoadError} (h : readSettings s.tree.find path = .error e) :
    s.step (.load path) = (some (.error e), s) := by
  simp [step, Cache.load, h, settle]

theorem step_get_held {l : Loaded} (h : s.cache.held = some l) :
    s.step .get = (some (.ok l), s) := by
  simp [step, Cache.get, h, settle]

theorem step_get_none (h : s.cache.held = none) : s.step .get = s.step (.load none) := by
  simp [step, Cache.get, h]

variable (s)

theorem settle_tree (r : Except LoadError (Loaded × Cache)) : (s.settle r).2.tree = s.tree := by
  cases r <;> rfl

theorem run_tree : (s.run us).2.tree = treeAfter s.tree us := by
  induction us generalizing s with
  | nil => rfl
  | cons u us ih =>
    simp only [run, ih]
    cases u <;> simp [step, settle_tree, treeAfter]

end Session

section Run

variable (t : Tree) (us : List Use)

/-- The answers of a whole run. -/
def answers : List Answer := ((Session.start t).run us).1

/-- The session in which the use at place `i` is made. -/
def sessionAt (i : Nat) : Session := ((Session.start t).run (us.take i)).2

variable {t us} {i j : Nat} {u : Use}

theorem answers_at (hu : us[i]? = some u) :
    (answers t us)[i]? = some ((sessionAt t us i).step u).1 := by
  rw [answers, Session.run_getElem?, hu]
  rfl

theorem sessionAt_succ (hu : us[i]? = some u) :
    sessionAt t us (i + 1) = ((sessionAt t us i).step u).2 := by
  rw [sessionAt, List.take_add_one, hu, Option.toList_some, Session.run_append]
  rfl

theorem sessionAt_end (hu : us[i]? = none) : sessionAt t us (i + 1) = sessionAt t us i := by
  rw [sessionAt, List.take_add_one, hu, Option.toList_none, List.append_nil]
  rfl

theorem reads_filesAt {path : Option String} {r : Except LoadError Settings} :
    Reads (filesAt t us i) path r ↔ r = readSettings (sessionAt t us i).tree.find path := by
  have hfiles : filesAt t us i = (sessionAt t us i).tree.find := by
    rw [filesAt, sessionAt, Session.run_tree]
    rfl
  rw [hfiles, reads_iff]

/-- What the cache holds at a place of a run. -/
structure Kept (t : Tree) (us : List Use) (i : Nat) : Prop where
  held : (∃ j l, IsLatest t us i j ∧ (answers t us)[j]? = some (some (.ok l)) ∧
      (sessionAt t us i).cache.held = some l) ∨
    Unloaded t us i ∧ (sessionAt t us i).cache.held = none
  older : ∀ j < i, Loads t us j → ∃ l, (answers t us)[j]? = some (some (.ok l)) ∧
    l.serial < (sessionAt t us i).cache.next

/-- What a use comes to: it loads settings, or leaves everything as it is in the cache, or clears
the cache. -/
inductive Outcome (t : Tree) (us : List Use) (i : Nat) (u : Use) : Prop
  | loaded {x : Settings} : Loads t us i →
      (sessionAt t us i).step u = (some (.ok ⟨x, (sessionAt t us i).cache.next⟩),
        { sessionAt t us i with
          cache := ⟨some ⟨x, (sessionAt t us i).cache.next⟩, (sessionAt t us i).cache.next + 1⟩ }) →
      Outcome t us i u
  | unchanged : ¬ Loads t us i → u ≠ .reset →
      ((sessionAt t us i).step u).2.cache = (sessionAt t us i).cache → Outcome t us i u
  | cleared : u = .reset → Outcome t us i u

theorem Kept.held_none (h : Kept t us i) (hn : Unloaded t us i) :
    (sessionAt t us i).cache.held = none := by
  obtain ⟨j, -, hj, -⟩ | ⟨-, hheld⟩ := h.held
  · exact absurd hn hj.not_unloaded
  · exact hheld

theorem Kept.held_some (h : Kept t us i) (hj : IsLatest t us i j) :
    ∃ l, (answers t us)[j]? = some (some (.ok l)) ∧ (sessionAt t us i).cache.held = some l := by
  obtain ⟨k, l, hk, hl⟩ | ⟨hn, -⟩ := h.held
  · rw [hj.unique hk]
    exact ⟨l, hl⟩
  · exact absurd hn hj.not_unloaded

/-- A use that comes to the same as a load changes the cache if what it reads is valid. -/
theorem outcome_of_load {path : Option String} (hr : u ≠ .reset)
    (hstep : (sessionAt t us i).step u = (sessionAt t us i).step (.load path))
    (hloads : Loads t us i ↔ ∃ x, Reads (filesAt t us i) path (.ok x)) : Outcome t us i u := by
  cases h : readSettings (sessionAt t us i).tree.find path with
  | ok x =>
    exact .loaded (hloads.mpr ⟨x, reads_filesAt.mpr h.symm⟩)
      (hstep.trans (Session.step_load_ok h))
  | error e =>
    have hnot : ¬ Loads t us i := by simp [hloads, reads_filesAt, h]
    exact .unchanged hnot hr (by rw [hstep, Session.step_load_error h])

theorem Kept.outcome (h : Kept t us i) (hu : us[i]? = some u) : Outcome t us i u := by
  cases u with
  | write path text => exact .unchanged (not_loads_write hu) nofun rfl
  | reset => exact .cleared rfl
  | load path => exact outcome_of_load nofun rfl (loads_load hu)
  | get =>
    by_cases hn : Unloaded t us i
    · have hloads : Loads t us i ↔ ∃ x, Reads (filesAt t us i) none (.ok x) := by
        simp [loads_get hu, hn]
      exact outcome_of_load nofun (Session.step_get_none (h.held_none hn)) hloads
    · have hloads : ¬ Loads t us i := fun hl => hn ((loads_get hu).mp hl).2
      obtain ⟨j, hj⟩ : ∃ j, IsLatest t us i j := by simpa [unloaded_iff] using hn
      obtain ⟨l, -, hl⟩ := h.held_some hj
      exact .unchanged hloads nofun (by rw [Session.step_get_held hl])

theorem Kept.unchanged (h : Kept t us i) (hr : us[i]? ≠ some .reset) (hl : ¬ Loads t us i)
    (hcache : (sessionAt t us (i + 1)).cache = (sessionAt t us i).cache) : Kept t us (i + 1) := by
  constructor
  · rw [hcache]
    obtain ⟨j, l, hj, hheld⟩ | ⟨hn, hheld⟩ := h.held
    · exact .inl ⟨j, l, hj.succ hr hl, hheld⟩
    · exact .inr ⟨hn.succ hl, hheld⟩
  · intro j hj hloads
    rw [hcache]
    obtain hlt | rfl := Nat.lt_succ_iff_lt_or_eq.mp hj
    · exact h.older j hlt hloads
    · exact absurd hloads hl

theorem Kept.succ (h : Kept t us i) : Kept t us (i + 1) := by
  cases hu : us[i]? with
  | none =>
    refine h.unchanged (by simp [hu]) (by simp [loads_iff, hu]) ?_
    rw [sessionAt_end hu]
  | some u =>
    cases h.outcome hu with
    | @loaded x hl hstep =>
      have hanswer := answers_at (t := t) hu
      rw [hstep] at hanswer
      constructor
      · rw [sessionAt_succ hu, hstep]
        exact .inl ⟨i, _, isLatest_of_loads hl, hanswer, rfl⟩
      · intro j hj hloads
        rw [sessionAt_succ hu, hstep]
        obtain hlt | rfl := Nat.lt_succ_iff_lt_or_eq.mp hj
        · obtain ⟨l, hl, hserial⟩ := h.older j hlt hloads
          exact ⟨l, hl, Nat.lt_succ_of_lt hserial⟩
        · exact ⟨_, hanswer, Nat.lt_succ_self _⟩
    | unchanged hl hr hcache =>
      refine h.unchanged (by simpa [hu] using hr) hl ?_
      rw [sessionAt_succ hu, hcache]
    | cleared hr =>
      subst hr
      constructor
      · rw [sessionAt_succ hu]
        exact .inr ⟨unloaded_of_reset hu, rfl⟩
      · intro j hj hloads
        rw [sessionAt_succ hu]
        obtain hlt | rfl := Nat.lt_succ_iff_lt_or_eq.mp hj
        · exact h.older j hlt hloads
        · exact absurd hloads (not_loads_reset hu)

/-- At each place of a run the cache holds what the last load gave, if it is not undone. -/
theorem kept (t : Tree) (us : List Use) (i : Nat) : Kept t us i := by
  induction i with
  | zero =>
    refine ⟨.inr ⟨?_, rfl⟩, ?_⟩
    · exact fun j hj => absurd hj (Nat.not_lt_zero j)
    · exact fun j hj => absurd hj (Nat.not_lt_zero j)
  | succ i ih => exact ih.succ

/-- How the answers of a run follow from its uses alone. -/
structure FollowsLoads (t : Tree) (us : List Use) : Prop where
  /-- A load gives settings that no other load gives. -/
  made : ∀ i, Loads t us i → ∃ l, (answers t us)[i]? = some (some (.ok l)) ∧
    ∀ j, Loads t us j → (answers t us)[j]? = some (some (.ok l)) → j = i
  /-- What is loaded is what the file holds at that moment. -/
  loaded : ∀ i path, us[i]? = some (.load path) → ∃ a, (answers t us)[i]? = some (some a) ∧
    Reads (filesAt t us i) path (a.map Loaded.settings)
  /-- A file is read as it was written last. -/
  written : ∀ i j path text asked found, j < i → us[j]? = some (.write path text) →
    (∀ ns, ns <+: namesOf path → ns ≠ namesOf path → (treeAfter t (us.take j)).lookup ns = none) →
    (∀ k other text', j < k → k < i → us[k]? = some (.write other text') →
      ¬ namesOf other <+: namesOf path) →
    IsPathFor asked found → LeadsTo found (namesOf path) →
      ∀ r, Reads (filesAt t us i) asked r ↔ Means text r
  /-- What is asked for is what the last load gave, whatever the files are. -/
  held : ∀ i j, us[i]? = some .get → IsLatest t us i j →
    (answers t us)[i]? = (answers t us)[j]? ∧
      ∀ tree : Tree, some ({ sessionAt t us i with tree }.step .get).1 = (answers t us)[j]?
  /-- If there is no such load, it is loaded from the default path. -/
  unheld : ∀ i, us[i]? = some .get → (∀ j, ¬ IsLatest t us i j) →
    ∃ a, (answers t us)[i]? = some (some a) ∧
      Reads (filesAt t us i) none (a.map Loaded.settings)
  /-- What fails changes nothing. -/
  failed : ∀ i e, (answers t us)[i]? = some (some (.error e)) →
    sessionAt t us (i + 1) = sessionAt t us i

theorem exists_answer_of_loads (hl : Loads t us i) :
    ∃ l, (answers t us)[i]? = some (some (.ok l)) ∧ l.serial = (sessionAt t us i).cache.next := by
  cases hu : us[i]? with
  | none => simp [loads_iff, hu] at hl
  | some u =>
    have hanswer := answers_at (t := t) hu
    cases (kept t us i).outcome hu with
    | loaded _ hstep =>
      rw [hstep] at hanswer
      exact ⟨_, hanswer, rfl⟩
    | unchanged hn => exact absurd hl hn
    | cleared hr => exact absurd hl (not_loads_reset (hr ▸ hu))

/-- Later loads give settings with greater numbers. -/
theorem answers_ne_of_lt (hij : i < j) (hi : Loads t us i) (hj : Loads t us j) :
    (answers t us)[i]? ≠ (answers t us)[j]? := by
  obtain ⟨l, hl, hserial⟩ := (kept t us j).older i hij hi
  obtain ⟨m, hm, hnext⟩ := exists_answer_of_loads hj
  rw [hl, hm]
  simp only [ne_eq, Option.some.injEq, Except.ok.injEq]
  rintro rfl
  omega

theorem exists_load_answer (s : Session) (path : Option String) :
    ∃ a, (s.step (.load path)).1 = some a ∧
      a.map Loaded.settings = readSettings s.tree.find path := by
  cases hread : readSettings s.tree.find path with
  | ok x => exact ⟨_, by rw [Session.step_load_ok hread], rfl⟩
  | error e => exact ⟨_, by rw [Session.step_load_error hread], rfl⟩

theorem Session.settle_error {s : Session} {r : Except LoadError (Loaded × Cache)} {e : LoadError}
    (h : (s.settle r).1 = some (.error e)) : (s.settle r).2 = s := by
  cases r with
  | ok => simp [Session.settle] at h
  | error => rfl

/-- A use that fails leaves the files and the cache as they are. -/
theorem step_error {s : Session} {u : Use} {e : LoadError} (h : (s.step u).1 = some (.error e)) :
    (s.step u).2 = s := by
  cases u with
  | write | reset => simp [Session.step] at h
  | load | get => exact Session.settle_error h

/-- The cache follows the loads: in every run of uses, settings that are asked for are those of the
last load that is not undone by a reset, and loads that fail do not count. -/
theorem cache_follows_loads (t : Tree) (us : List Use) : FollowsLoads t us where
  made := by
    intro i hi
    obtain ⟨l, hl, -⟩ := exists_answer_of_loads hi
    refine ⟨l, hl, fun j hj hanswer => ?_⟩
    obtain hlt | heq | hlt := Nat.lt_trichotomy j i
    · exact absurd (hanswer.trans hl.symm) (answers_ne_of_lt hlt hj hi)
    · exact heq
    · exact absurd (hl.trans hanswer.symm) (answers_ne_of_lt hlt hi hj)
  loaded := by
    intro i path hu
    obtain ⟨a, ha, hread⟩ := exists_load_answer (sessionAt t us i) path
    exact ⟨a, by rw [answers_at hu, ha], reads_filesAt.mpr hread⟩
  written := by
    intro i j path text asked found hj hu hway hapart hasked hleads r
    have hholds := holds_treeAfter hu hway hj hapart
    exact reads_of_file hasked (hholds.find hleads)
  held := by
    intro i j hu hj
    obtain ⟨l, hl, hheld⟩ := (kept t us i).held_some hj
    rw [answers_at hu, hl, Session.step_get_held hheld]
    refine ⟨rfl, fun tree => ?_⟩
    rw [Session.step_get_held (s := { sessionAt t us i with tree }) hheld]
  unheld := by
    intro i hu hn
    have hnone := (kept t us i).held_none (unloaded_iff.mpr hn)
    obtain ⟨a, ha, hread⟩ := exists_load_answer (sessionAt t us i) none
    exact ⟨a, by rw [answers_at hu, Session.step_get_none hnone, ha], reads_filesAt.mpr hread⟩
  failed := by
    intro i e he
    cases hu : us[i]? with
    | none => simp [answers, Session.run_getElem?, hu] at he
    | some u =>
      rw [answers_at hu] at he
      rw [sessionAt_succ hu, step_error (Option.some.inj he)]

end Run

end AlertRelay.Config
