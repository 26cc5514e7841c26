import WorkDispatch.Proofs.Settings.Variables

/-!
# Where every setting comes from

Settings are read from the defaults with the file laid over them and the variables laid over both. So a
leaf has the value of its variable, or else that of the file, or else its default (`layered`), whatever
else the sources tell: nothing that is told of another leaf matters to it.

That is so of a leaf whose path is `Clear` in both sources. A group is not always a table: a list is read
as the fields of a group in their order, and so a list that a source gives for a group decides leaves that
no source names; what is no table gives way to the first key below it, and takes all that was in the group
along; and a key may name one place of the list that a leaf is. `unnamed_leaves_deviate` has sources of
all three kinds.
-/

set_option autoImplicit false

namespace WorkDispatch.Settings

open Layer

variable {freshId : String} {p : List String} {file environment : List (String × Layer)} {is : Layer}

/-! ## What is merged -/

/-- The defaults as they are laid. -/
def base (freshId : String) : Layer := ofJson (Settings.default freshId).toJson

/-- What there is at a clear path when all is merged: a table, or what the sources name, the later one first,
or what the defaults have. -/
theorem at?_of_merged (h : merged? freshId file environment = some is)
    (given : Clear p (marksOfAll file)) (set : Clear p (marksOfAll environment)) :
    (∃ es, at? p is = some (table es)) ∨
      at? p is =
        (named? p (marksOfAll environment) <|> (named? p (marksOfAll file) <|> at? p (base freshId))) := by
  obtain ⟨mid, first, second⟩ := Option.bind_eq_some_iff.mp h
  have lower : (∃ es, at? p mid = some (table es)) ∨
      at? p mid = (named? p (marksOfAll file) <|> at? p (base freshId)) :=
    at?_of_laid (laid_layPaths first) given
  have upper : (∃ es, at? p is = some (table es)) ∨
      at? p is = (named? p (marksOfAll environment) <|> at? p mid) :=
    at?_of_laid (laid_layPaths second) set
  rcases upper with isTable | ended
  · exact .inl isTable
  · rw [ended]
    cases named? p (marksOfAll environment) with
    | some v => exact .inr rfl
    | none => exact lower

/-- A group that the sources tell nothing of but that it is a table is one in the end, and no key is in
it twice. -/
theorem isTidy_of_merged (h : merged? freshId file environment = some is)
    (given : ∀ m ∈ marksOfAll file, m.path <+: p → m.told = .table)
    (set : ∀ m ∈ marksOfAll environment, m.path <+: p → m.told = .table)
    (tidy : IsTidy (at? p (base freshId))) : IsTidy (at? p is) := by
  obtain ⟨mid, first, second⟩ := Option.bind_eq_some_iff.mp h
  exact isTidy_of_laid (laid_layPaths second) set (isTidy_of_laid (laid_layPaths first) given tidy)

/-! ## What is read -/

/-- A leaf has the value that the sources name at its path, the later one first, and its default where they
name none. -/
def FromSources (freshId : String) (given set : List Mark) (s : Settings) (l : Leaf Settings) : Prop :=
  match named? l.path set <|> named? l.path given with
  | some v => l.read v = some (l.get s)
  | none => l.get s = l.get (Settings.default freshId)

variable {s : Settings}

/-- So has a leaf that is read where its path leads, takes no table, and has its default where the path leads
to what it leads to in the defaults. -/
theorem fromSources_of_read {l : Leaf Settings} (h : merged? freshId file environment = some is)
    (given : Clear l.path (marksOfAll file)) (set : Clear l.path (marksOfAll environment))
    (refuses : l.Refuses) (reads : ∀ x, at? l.path is = some x → l.read x = some (l.get s))
    (default : at? l.path is = at? l.path (base freshId) → l.get s = l.get (Settings.default freshId)) :
    FromSources freshId (marksOfAll file) (marksOfAll environment) s l := by
  unfold FromSources
  rcases at?_of_merged h given set with ⟨es, isTable⟩ | ended
  · have refused := reads _ isTable
    rw [refuses es] at refused
    cases refused
  · generalize named? l.path (marksOfAll environment) = e at ended ⊢
    generalize named? l.path (marksOfAll file) = f at ended ⊢
    cases e with
    | some v => exact reads v ended
    | none =>
      cases f with
      | some v => exact reads v ended
      | none => exact default ended

/-- The value at a leaf comes from the environment, else from the file, else from the defaults. -/
theorem fromSources_leaf {l : Leaf Settings} (hl : l ∈ leaves)
    (h : merged? freshId file environment = some is) (read : lenient.settings? freshId is = some s)
    (given : Clear l.path (marksOfAll file)) (set : Clear l.path (marksOfAll environment)) :
    FromSources freshId (marksOfAll file) (marksOfAll environment) s l := by
  have reads : ∀ x, at? l.path is = some x → l.read x = some (l.get s) := fun x there =>
    reads_leaves freshId l (List.mem_cons_of_mem labels hl) is s x read there
  refine fromSources_of_read h given set (refuses_leaves l hl) reads fun same => ?_
  obtain ⟨u, there, default⟩ := Option.bind_eq_some_iff.mp (holds_default freshId l hl)
  have kept := reads u (same.trans there)
  rw [default, Option.some.injEq] at kept
  exact kept.symm

/-- A path below the labels that is clear leaves the labels a table. -/
theorem table_of_clear_label {k : String} {ms : List Mark} (clear : Clear (label k).path ms) :
    ∀ m ∈ ms, m.path <+: labels.path → m.told = .table := by
  intro m hm above
  rcases clear m hm (above.trans (List.prefix_append labels.path [k])) with isTable | ⟨same, -⟩
  · exact isTable
  · rw [same] at above
    have short : ¬ 3 ≤ 2 := by decide
    exact absurd above.length_le short

/-- So does a label. -/
theorem fromSources_label (k : String)
    (h : merged? freshId file environment = some is) (read : lenient.settings? freshId is = some s)
    (given : Clear (label k).path (marksOfAll file)) (set : Clear (label k).path (marksOfAll environment)) :
    FromSources freshId (marksOfAll file) (marksOfAll environment) s (label k) := by
  have unlabelled : at? labels.path (base freshId) = some (table []) := rfl
  obtain ⟨es, group, nodup⟩ := isTidy_of_merged h (table_of_clear_label given) (table_of_clear_label set)
    ⟨[], unlabelled, List.nodup_nil⟩
  have all := reads_leaves freshId labels List.mem_cons_self is s _ read group
  have one : (es.lookup k).map lenient.text? = ((label k).get s).map some := label_of_read nodup all k
  have there : at? (label k).path is = es.lookup k := by
    have below := at?_append labels.path [k] is
    rw [group] at below
    exact below.trans (Option.bind_fun_some _)
  have reads : ∀ x, at? (label k).path is = some x → (label k).read x = some ((label k).get s) := by
    intro x found
    rw [← there, found, Option.map_some] at one
    obtain ⟨t, kept, text⟩ := Option.map_eq_some_iff.mp one.symm
    show (lenient.text? x).map some = _
    rw [← text, kept]
    rfl
  refine fromSources_of_read h given set (fun _ => rfl) reads fun same => ?_
  have nothing : at? (label k).path is = none := same
  rw [← there, nothing] at one
  exact Option.map_eq_none_iff.mp one.symm

/-! ## Loading -/

theorem isWord_labels : ∀ w ∈ labels.path, IsWord w := by
  decide +kernel

/-- Every leaf, the labels of the worker among them. -/
def IsLeaf (l : Leaf Settings) : Prop := l ∈ leaves ∨ ∃ k, l = label k

/-- Settings that are loaded are read from what was merged, and nothing is wrong with them. -/
theorem load_eq_ok {sources : Sources} (h : load freshId sources = some (.ok s)) :
    ∃ file is, fileEntries sources.file = .ok file ∧
      merged? freshId file ((sources.environment.getD []).filterMap Layer.ofVariable) = some is ∧
      lenient.settings? freshId is = some s ∧ s.problem? = none := by
  unfold load at h
  simp only at h
  split at h
  · cases h
  · split at h
    · cases h
    · next file read =>
      obtain ⟨is, merged, took⟩ := Option.map_eq_some_iff.mp h
      refine ⟨file, is, read, merged, ?_⟩
      unfold taken at took
      split at took
      · cases took
      · next s' settings =>
        split at took
        · cases took
        · next fine =>
          cases took
          exact ⟨settings, fine⟩

/-- Settings that are loaded have at every leaf whose path is clear in the file and in the environment what
its variable says, or else what the file says, or else its default. The variable of a leaf tells of its path
only, in letters of any case, and so does that of a label whose key is a word. There are no other leaves, and
nothing is wrong with the settings. -/
theorem layered {sources : Sources} (h : load freshId sources = some (.ok s)) :
    ∃ file, fileEntries sources.file = .ok file ∧
      let given := marksOfAll file
      let set := marksOfAll ((sources.environment.getD []).filterMap Layer.ofVariable)
      (∀ l, IsLeaf l → Clear l.path given → Clear l.path set → FromSources freshId given set s l) ∧
      (∀ l, (l ∈ leaves ∨ ∃ k, l = label k ∧ IsWord k) →
        ∀ name text, Text.lower name = nameOf l.path →
          (Layer.ofVariable (name, text)).map marksOf = some [⟨l.path, .value (ofText text)⟩]) ∧
      (∀ t, (∀ l, IsLeaf l → l.get s = l.get t) → s = t) ∧
      s.problem? = none := by
  obtain ⟨file, is, read, merged, settings, fine⟩ := load_eq_ok h
  refine ⟨file, read, fun l leaf given set => ?_, fun l leaf name text named => ?_,
    fun t same => ?_, fine⟩
  · rcases leaf with leaf | ⟨k, rfl⟩
    · exact fromSources_leaf leaf merged settings given set
    · exact fromSources_label k merged settings given set
  · rcases leaf with leaf | ⟨k, rfl, isWord⟩
    · exact marksOf_leaf leaf named text
    · refine marksOf_variable (List.forall_mem_append.mpr ⟨isWord_labels, ?_⟩) named text
      exact List.forall_mem_singleton.mpr isWord
  · exact eq_of_leaves (fun l hl => same l (.inl hl)) fun k => same (label k) (.inr ⟨k, rfl⟩)

/-- The settings, if they load. -/
def loaded? (freshId : String) (sources : Sources) : Option Settings :=
  (load freshId sources).bind Except.toOption

/-- Settings that are loaded are what the sources load as. -/
theorem load_of_loaded? {sources : Sources} (h : loaded? freshId sources = some s) :
    load freshId sources = some (.ok s) := by
  obtain ⟨r, ended, ok⟩ := Option.bind_eq_some_iff.mp h
  cases r with
  | error => cases ok
  | ok =>
    cases ok
    exact ended

/-- What one variable tells, alone in its environment. -/
theorem marksOfAll_singleton {v : String × String} {ms : List Mark}
    (h : (Layer.ofVariable v).map marksOf = some ms) : marksOfAll ([v].filterMap Layer.ofVariable) = ms := by
  obtain ⟨e, entry, rfl⟩ := Option.map_eq_some_iff.mp h
  rw [List.filterMap_cons_some entry, List.filterMap_nil, marksOfAll, List.flatMap_singleton]

def attempts : Leaf Settings :=
  .within "retry" retry (.field "max_attempts" (lenient.count? 32) Retry.maxAttempts)

/-- The longest delay between attempts. -/
def longestDelay : Leaf Settings :=
  .within "retry" retry (.field "max_delay_ms" (lenient.count? 64) Retry.maxDelayMs)

/-- One variable sets one field of a group, and the others keep their defaults. -/
theorem layered_over_defaults :
    ∃ s, load "w-1" ⟨none, some [("AI_FABRIC__RETRY__MAX_ATTEMPTS", "9")]⟩ = some (.ok s) ∧
      s.retry.maxAttempts = 9 ∧ s.retry.maxDelayMs = 30000 := by
  have loads : (loaded? "w-1" ⟨none, some [("AI_FABRIC__RETRY__MAX_ATTEMPTS", "9")]⟩).isSome = true := by
    decide +kernel
  obtain ⟨s, there⟩ := Option.isSome_iff_exists.mp loads
  have loaded := load_of_loaded? there
  refine ⟨s, loaded, ?_⟩
  obtain ⟨file, none, leaf, names, -, -⟩ := layered loaded
  cases none
  have isLeaf : attempts ∈ leaves ∧ longestDelay ∈ leaves := by
    simp [leaves, Retry.leaves, attempts, longestDelay]
  -- The only mark there is, of the only variable.
  have set := marksOfAll_singleton
    (names attempts (.inl isLeaf.1) "AI_FABRIC__RETRY__MAX_ATTEMPTS" "9" (by decide +kernel))
  have none (p : List String) : Clear p (marksOfAll []) := fun m hm => absurd hm List.not_mem_nil
  have apart : ¬ attempts.path <+: longestDelay.path := by decide
  simp only [Option.getD_some, set] at leaf
  have named := leaf attempts (.inl isLeaf.1) (none _)
    fun m hm _ => .inr (List.mem_singleton.mp hm ▸ ⟨rfl, _, rfl⟩)
  have unnamed := leaf longestDelay (.inl isLeaf.2) (none _) fun m hm above => by
    rw [List.mem_singleton.mp hm] at above
    exact absurd above apart
  have nine : lenient.count? 32 (ofText "9") = some 9 := by decide +kernel
  have read : lenient.count? 32 (ofText "9") = some s.retry.maxAttempts := named
  rw [nine, Option.some.injEq] at read
  exact ⟨read.symm, unnamed⟩

/-! ## Leaves that are not clear -/

/-- Settings are loaded, of which a leaf is neither what the sources name there, of which none names a path
twice, nor its default. -/
def Deviates (sources : Sources) (l : Leaf Settings) : Prop :=
  ∃ s file, load "w-1" sources = some (.ok s) ∧ fileEntries sources.file = .ok file ∧
    let given := marksOfAll file
    let set := marksOfAll ((sources.environment.getD []).filterMap Layer.ofVariable)
    (given.map Mark.path).Nodup ∧ (set.map Mark.path).Nodup ∧ IsLeaf l ∧
      ¬ FromSources "w-1" given set s l

/-- Whether the sources name no value of a leaf, no path twice, and what is loaded has not the default. -/
def deviates (sources : Sources) (l : Leaf Settings) [DecidableEq l.Value] : Bool :=
  match loaded? "w-1" sources, fileEntries sources.file with
  | some s, .ok file =>
    let given := marksOfAll file
    let set := marksOfAll ((sources.environment.getD []).filterMap Layer.ofVariable)
    decide ((given.map Mark.path).Nodup ∧ (set.map Mark.path).Nodup ∧
      (named? l.path set <|> named? l.path given).isNone ∧ l.get s ≠ l.get (Settings.default "w-1"))
  | _, _ => false

/-- What the check of the inputs below says. -/
theorem deviates_of_check {sources : Sources} {l : Leaf Settings} [DecidableEq l.Value]
    (leaf : IsLeaf l) (h : deviates sources l = true) : Deviates sources l := by
  unfold deviates at h
  split at h
  · next s file loaded read =>
    obtain ⟨given, set, unnamed, other⟩ := of_decide_eq_true h
    refine ⟨s, file, load_of_loaded? loaded, read, given, set, leaf, fun sources => ?_⟩
    unfold FromSources at sources
    rw [Option.isNone_iff_eq_none.mp unnamed] at sources
    exact other sources
  · cases h

/-- The threshold of a breaker. -/
def failuresOfRegistration : Leaf Settings :=
  .within "circuit_breakers" breakers (.within "registration" Breakers.registration
    (.field "failure_threshold" (lenient.count? 32) Breaker.failureThreshold))

def capabilities : Leaf Settings :=
  .within "worker" worker (.field "capabilities" lenient.capabilities? Worker.capabilities)

instance : DecidableEq longestDelay.Value := inferInstanceAs (DecidableEq Nat)
instance : DecidableEq failuresOfRegistration.Value := inferInstanceAs (DecidableEq Nat)
instance : DecidableEq capabilities.Value := inferInstanceAs (DecidableEq (List Capability))

/-- A list for a group is read as its fields in their order; a scalar for a group, which gives way to the
variable of one field, takes the defaults of the others along; and a variable may name the first of the
capabilities. -/
theorem unnamed_leaves_deviate :
    Deviates ⟨some ("fabric.toml", .text "retry=[5,10,20,2.0,0.5]\n"), none⟩ longestDelay ∧
      Deviates ⟨some ("fabric.toml", .text "circuit_breakers.registration=1\n"),
        some [("AI_FABRIC__CIRCUIT_BREAKERS__REGISTRATION__TIMEOUT_SECONDS", "10")]⟩ failuresOfRegistration ∧
      Deviates ⟨none, some [("AI_FABRIC__WORKER__CAPABILITIES[0]", "DATA_ANALYSIS")]⟩ capabilities := by
  have retry : longestDelay ∈ leaves := by
    simp [leaves, Retry.leaves, longestDelay]
  have breaker : failuresOfRegistration ∈ leaves := by
    simp [leaves, Breakers.leaves, Breaker.leaves, failuresOfRegistration]
  have worker : capabilities ∈ leaves := by
    simp [leaves, Worker.leaves, capabilities]
  exact ⟨deviates_of_check (.inl retry) (by decide +kernel),
    deviates_of_check (.inl breaker) (by decide +kernel),
    deviates_of_check (.inl worker) (by decide +kernel)⟩

end WorkDispatch.Settings
