import TraceArchive.Disk.Tree
/-!
Walking on a disk.  What a changed entry leaves as it was, when a walk along names comes to an end,
and the place that a path names.  A walk that comes to an end does so on every disk that has the
same directories, or more of them.
-/

namespace TraceArchive

namespace Disk

variable {d later : Disk}

/-! ## Entries -/

theorem lookup_setEntry (place : Location) (e : Entry) (entries : List (Location × Entry))
    (other : Location) :
    (setEntry place e entries).lookup other =
      if other = place then some e else entries.lookup other := by
  induction entries with
  | nil =>
      by_cases h : other = place
      · simp [setEntry, h]
      · have hne : (other == place) = false := beq_eq_false_iff_ne.mpr h
        simp [setEntry, List.lookup_cons, h, hne]
  | cons head rest ih =>
      obtain ⟨l, old⟩ := head
      by_cases hl : l = place
      · subst hl
        by_cases h : other = l
        · simp [setEntry, h]
        · have hne : (other == l) = false := beq_eq_false_iff_ne.mpr h
          simp [setEntry, List.lookup_cons, h, hne]
      · by_cases h : other = l
        · subst h
          simp [setEntry, hl]
        · have hne : (other == l) = false := beq_eq_false_iff_ne.mpr h
          simp [setEntry, List.lookup_cons, hl, hne, ih]

theorem start_congr (h : later.workDir = d.workDir) (p : Path) : later.start p = d.start p := by
  simp [start, h]

@[simp] theorem get?_root (d : Disk) : d.get? [] = some .directory :=
  rfl

theorem get?_set {place : Location} (hplace : place ≠ []) (d : Disk) (e : Entry)
    (other : Location) :
    (d.set place e).get? other = if other = place then some e else d.get? other := by
  by_cases hother : other = []
  · subst hother
    simp [Ne.symm hplace]
  · simp [get?, set, hother, lookup_setEntry]

/-! ## Walks -/

theorem step_eq_append {place next : Location} {name : String} (hdot : name ≠ ".")
    (hdots : name ≠ "..") (h : step place name = .ok next) : next = place ++ [name] := by
  simp only [step, hdot, hdots, ↓reduceIte] at h
  split at h
  · cases h
  · cases h
    rfl

theorem enter_cons_eq_ok {place goal : Location} {name : String} {names : List String} :
    d.enter place (name :: names) = .ok goal ↔
      ∃ next, step place name = .ok next ∧ d.get? next = some .directory ∧
        d.enter next names = .ok goal := by
  rw [enter]
  cases hstep : step place name with
  | error fault => simp [bind, Except.bind]
  | ok next =>
      cases hentry : d.get? next with
      | none => simp [bind, Except.bind, hentry]
      | some e => cases e <;> simp [bind, Except.bind, hentry]

theorem enter_append_eq_ok {place goal : Location} {names more : List String} :
    d.enter place (names ++ more) = .ok goal ↔
      ∃ half, d.enter place names = .ok half ∧ d.enter half more = .ok goal := by
  induction names generalizing place with
  | nil => simp [enter]
  | cons name names ih =>
      simp only [List.cons_append, enter_cons_eq_ok, ih]
      constructor
      · rintro ⟨next, hstep, hdir, half, hhalf, hgoal⟩
        exact ⟨half, ⟨next, hstep, hdir, hhalf⟩, hgoal⟩
      · rintro ⟨half, ⟨next, hstep, hdir, hhalf⟩, hgoal⟩
        exact ⟨next, hstep, hdir, half, hhalf, hgoal⟩

/-- Every directory of the first disk is one of the second. -/
def KeepsDirs (d later : Disk) : Prop :=
  ∀ place, d.get? place = some .directory → later.get? place = some .directory

theorem KeepsDirs.enter (hkeeps : d.KeepsDirs later) {place goal : Location}
    {names : List String} (h : d.enter place names = .ok goal) :
    later.enter place names = .ok goal := by
  induction names generalizing place with
  | nil => exact h
  | cons name names ih =>
      obtain ⟨next, hstep, hdir, hrest⟩ := enter_cons_eq_ok.mp h
      exact enter_cons_eq_ok.mpr ⟨next, hstep, hkeeps next hdir, ih hrest⟩

/-- A single dot leads from a directory to itself. -/
theorem enter_filter_dots {place goal : Location} (hplace : d.get? place = some .directory)
    (names : List String) :
    d.enter place (names.filter (· ≠ ".")) = .ok goal ↔ d.enter place names = .ok goal := by
  induction names generalizing place with
  | nil => rfl
  | cons name names ih =>
      by_cases hname : name = "."
      · subst hname
        simp [enter_cons_eq_ok, step, hplace, ← ih hplace]
      · simp only [ne_eq, hname, not_false_eq_true, decide_true, List.filter_cons_of_pos,
          enter_cons_eq_ok]
        constructor
        · rintro ⟨next, hstep, hdir, hrest⟩
          exact ⟨next, hstep, hdir, (ih hdir).mp hrest⟩
        · rintro ⟨next, hstep, hdir, hrest⟩
          exact ⟨next, hstep, hdir, (ih hdir).mpr hrest⟩

/-! ## Places -/

theorem resolve_eq_named {start place : Location} {names : List String} :
    d.resolve start names = .ok (.named place) ↔
      ∃ before last parent, names = before ++ [last] ∧ last ≠ "." ∧ last ≠ ".." ∧
        d.enter start before = .ok parent ∧ step parent last = .ok place := by
  rcases List.eq_nil_or_concat names with rfl | ⟨before, last, rfl⟩
  · simp [resolve]
  · have hresolve : d.resolve start (before ++ [last]) =
        (d.enter start before).bind fun parent =>
          if last = "." || last = ".." then .ok .self
          else (step parent last).map .named := by
      simp only [resolve, List.getLast?_concat, List.dropLast_concat]
      rfl
    rw [List.concat_eq_append, hresolve]
    constructor
    · intro h
      cases henter : d.enter start before with
      | error fault => simp [henter, Except.bind] at h
      | ok parent =>
          simp only [henter, Except.bind] at h
          split at h
          · cases h
          · rename_i hlast
            simp only [Bool.or_eq_true, decide_eq_true_eq, not_or] at hlast
            cases hstep : step parent last with
            | error fault => simp [hstep, Except.map] at h
            | ok found =>
                simp only [hstep, Except.map, Except.ok.injEq, Target.named.injEq] at h
                exact ⟨before, last, parent, rfl, hlast.1, hlast.2, henter, h ▸ hstep⟩
    · rintro ⟨before', last', parent, heq, hdot, hdots, henter, hstep⟩
      obtain ⟨rfl, rfl⟩ := List.append_singleton_inj.mp heq
      simp [henter, Except.bind, hdot, hdots, hstep, Except.map]

/-- The place that a path names, provided that the directories before its last name are there. -/
def placeOf (d : Disk) (p : Path) : Option Location :=
  match d.resolve (d.start p) p.parts with
  | .ok (.named place) => some place
  | _ => none

theorem placeOf_eq_some {p : Path} {place : Location} :
    d.placeOf p = some place ↔ d.resolve (d.start p) p.parts = .ok (.named place) := by
  rw [placeOf]
  split
  · rename_i found hfound
    simp [hfound]
  · rename_i hnone
    simp only [reduceCtorEq, false_iff]
    exact hnone place

theorem placeOf_ne_root {p : Path} {place : Location} (h : d.placeOf p = some place) :
    place ≠ [] := by
  obtain ⟨_, last, parent, _, hdot, hdots, _, hstep⟩ :=
    resolve_eq_named.mp (placeOf_eq_some.mp h)
  rw [step_eq_append hdot hdots hstep]
  simp

theorem KeepsDirs.resolve (hkeeps : d.KeepsDirs later) {start place : Location}
    {names : List String} (h : d.resolve start names = .ok (.named place)) :
    later.resolve start names = .ok (.named place) := by
  obtain ⟨before, last, parent, hnames, hdot, hdots, henter, hstep⟩ := resolve_eq_named.mp h
  exact resolve_eq_named.mpr
    ⟨before, last, parent, hnames, hdot, hdots, hkeeps.enter henter, hstep⟩

theorem KeepsDirs.placeOf (hkeeps : d.KeepsDirs later) (hwork : later.workDir = d.workDir)
    {p : Path} {place : Location} (h : d.placeOf p = some place) :
    later.placeOf p = some place := by
  rw [placeOf_eq_some, start_congr hwork]
  exact hkeeps.resolve (placeOf_eq_some.mp h)

end Disk

end TraceArchive
