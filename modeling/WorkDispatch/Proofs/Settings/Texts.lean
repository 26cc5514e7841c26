import WorkDispatch.Proofs.Settings.Layering
import WorkDispatch.Proofs.Settings.Spelling

/-!
# Texts from the environment

What a setting that is a text becomes by its variable: what the text of the variable is stored as, written
out (`text_of_variable_iff`). That is the same text if it is one of those that come back (`Kept`), and
another one if it is not: `reworded_texts` are a version and an id that change.

A setting is set by its variable whatever the file says, and whatever stands before it in the environment;
only a later variable of the same setting, or of a group that it is in, takes its place.
-/

set_option autoImplicit false

namespace WorkDispatch.Settings

open Layer

/-! ## A variable among others -/

/-- A variable of the name tells of the path, and of no other. The names that `nameOf` gives are such. -/
def Denotes (name : String) (p : List String) : Prop :=
  ∀ text, ∃ key, Layer.ofVariable (name, text) = some (key, ofText text) ∧ path key = p.map .key

/-- The name of a path denotes it, in whatever case it is written. -/
theorem denotes_nameOf {w : String} {ws : List String} (h : ∀ v ∈ w :: ws, IsWord v) {name : String}
    (named : Text.lower name = nameOf (w :: ws)) : Denotes name (w :: ws) :=
  ofVariable_nameOf h named

variable {freshId : String} {s : Settings} {p : List String} {is : Layer}

/-- Where the key of an entry leads, there is its text in the end, or a table if later entries tell of what
is below it, as long as they tell nothing of it and of what is above it. -/
theorem at?_of_entry {es es' : List (String × Layer)} {key text : String} {was : Layer}
    (h : layPaths was (es ++ (key, ofText text) :: es') = some is) (denotes : path key = p.map .key)
    (last : ∀ m ∈ marksOfAll es', ¬ m.path <+: p) :
    (∃ ts, at? p is = some (table ts)) ∨ at? p is = some (ofText text) := by
  rw [layPaths, List.foldlM_append] at h
  obtain ⟨mid, -, h⟩ := Option.bind_eq_some_iff.mp h
  obtain ⟨set, here, rest⟩ := Option.bind_eq_some_iff.mp h
  have there : at? p set = some (ofText text) := by
    have laid : Laid (marksOf (key, ofText text)) (some mid) (some set) := laid_layAt here
    rw [marksOf_words denotes] at laid
    cases laid with
    | cons settles rest =>
      cases settles
      cases rest
      exact at?_put p _ _
  have clear : Clear p (marksOfAll es') := fun m hm above => absurd above (last m hm)
  have ended := at?_of_laid (laid_layPaths rest) clear
  rw [named?_eq_none last] at ended
  exact ended.imp_right fun kept => kept.trans there

/-- No label is named twice in what is merged. -/
theorem noRepeats_of_merged {file environment : List (String × Layer)}
    (h : merged? freshId file environment = some is) : NoRepeats labels.path (some is) := by
  obtain ⟨mid, first, second⟩ := Option.bind_eq_some_iff.mp h
  have unlabelled : NoRepeats labels.path (some (base freshId)) := by
    intro es there
    cases there
    exact List.nodup_nil
  exact noRepeats_of_laid (laid_layPaths second) (isPlain_marksOfAll environment)
    (noRepeats_of_laid (laid_layPaths first) (isPlain_marksOfAll file) unlabelled)

/-! ## Settings that are texts -/

/-- A field that is a text. -/
inductive TextField
  | level | bindAddress | workerId | workerName | version | endpoint
  deriving DecidableEq

namespace TextField

def path : TextField → List String
  | level => ["logging", "level"]
  | bindAddress => ["coordinator", "bind_address"]
  | workerId => ["worker", "worker_id"]
  | workerName => ["worker", "worker_name"]
  | version => ["worker", "version"]
  | endpoint => ["worker", "connection", "endpoint"]

def get : TextField → Settings → String
  | level => Logging.level ∘ logging
  | bindAddress => Coordinator.bindAddress ∘ coordinator
  | workerId => Worker.workerId ∘ worker
  | workerName => Worker.workerName ∘ worker
  | version => Worker.version ∘ worker
  | endpoint => (Connection.endpoint ∘ Worker.connection) ∘ worker

/-- A text field is a leaf of the settings. -/
theorem isLeaf (f : TextField) : Leaf.mk f.path lenient.text? f.get ∈ leaves := by
  cases f
  all_goals
    simp [leaves, Logging.leaves, Coordinator.leaves, Worker.leaves, Connection.leaves, Leaf.within,
      Leaf.field, path, get]

end TextField

/-- A setting that is a text: a field, or the label of the worker for a key. -/
inductive TextSetting
  | field (f : TextField)
  | label (key : String)
  deriving DecidableEq

namespace TextSetting

def path : TextSetting → List String
  | field f => f.path
  | label key => (Settings.label key).path

def get? (s : Settings) : TextSetting → Option String
  | field f => some (f.get s)
  | label key => s.worker.metadata.get? key

/-- The setting is the text of what there is at its path. -/
theorem reads (l : TextSetting) (read : lenient.settings? freshId is = some s)
    (once : NoRepeats labels.path (some is)) {x : Layer} (there : at? l.path is = some x) :
    ∃ t, text? x = some t ∧ l.get? s = some t := by
  cases l with
  | field f =>
    have text := reads_leaves freshId _ (List.mem_cons_of_mem labels f.isLeaf) is s x read there
    exact ⟨f.get s, text, rfl⟩
  | label key =>
    -- a label is read with all of them, from a table in which its key stands once
    have below := at?_append labels.path [key] is
    obtain ⟨u, group, found⟩ := Option.bind_eq_some_iff.mp (below.symm.trans there)
    obtain ⟨y, entry, same⟩ := lookup_of_at? found
    cases same
    obtain ⟨es, rfl⟩ := table_of_lookup entry
    have all := reads_leaves freshId labels List.mem_cons_self is s _ read group
    have one := label_of_read (once es group) all key
    rw [show es.lookup key = some x from entry, Option.map_some] at one
    obtain ⟨t, kept, text⟩ := Option.map_eq_some_iff.mp one.symm
    exact ⟨t, text.symm, kept⟩

end TextSetting

/-- The variable of a setting that is a text, after which none tells anything of the setting or of a group
that it is in, makes the setting what its text is stored as, written out. That is the text itself if and only
if it comes back as it was. -/
theorem text_of_variable_iff {file : Option (String × Contents)} {before after : List (String × String)}
    {name v : String} {l : TextSetting} (denotes : Denotes name l.path)
    (last : ∀ m ∈ marksOfAll (after.filterMap Layer.ofVariable), ¬ m.path <+: l.path)
    (loads : load freshId ⟨file, some (before ++ (name, v) :: after)⟩ = some (.ok s)) :
    l.get? s = text? (ofText v) ∧ (l.get? s = some v ↔ Kept v) := by
  obtain ⟨entries, is, -, merged, read, -⟩ := load_eq_ok loads
  obtain ⟨key, entry, isPath⟩ := denotes v
  have once := noRepeats_of_merged merged
  obtain ⟨mid, -, laid⟩ := Option.bind_eq_some_iff.mp merged
  rw [Option.getD_some, List.filterMap_append, List.filterMap_cons_some entry] at laid
  have same : l.get? s = text? (ofText v) := by
    rcases at?_of_entry laid isPath last with ⟨ts, isTable⟩ | there
    · obtain ⟨t, text, -⟩ := l.reads read once isTable
      cases text
    · obtain ⟨t, text, got⟩ := l.reads read once there
      rw [got, text]
  exact ⟨same, same ▸ text?_ofText_iff v⟩

/-- A label that the file gives is taken from the environment instead, among other variables. -/
theorem text_of_variable_iff_label :
    let file := ("fabric.toml", Contents.text "[worker.metadata]\nzone = \"b\"\n")
    let before := [("HOME", "/root")]
    let after := [("AI_FABRIC__WORKER__METADATA__RACK", "7")]
    ∃ s, load "w-1" ⟨file, some (before ++ ("AI_FABRIC__WORKER__METADATA__ZONE", "-40") :: after)⟩ =
        some (.ok s) ∧
      (TextSetting.label "zone").get? s = some "-40" := by
  intro file before after
  have loads : (loaded? "w-1"
      ⟨file, some (before ++ ("AI_FABRIC__WORKER__METADATA__ZONE", "-40") :: after)⟩).isSome = true := by
    decide +kernel
  obtain ⟨s, there⟩ := Option.isSome_iff_exists.mp loads
  have loaded := load_of_loaded? there
  have words : ∀ w ∈ (TextSetting.label "zone").path, IsWord w := by decide +kernel
  have denotes : Denotes "AI_FABRIC__WORKER__METADATA__ZONE" (TextSetting.label "zone").path :=
    denotes_nameOf words (by decide +kernel)
  have last : ∀ m ∈ marksOfAll (after.filterMap Layer.ofVariable),
      ¬ m.path <+: (TextSetting.label "zone").path := by
    decide +kernel
  have written : toString (-40 : Int) = "-40" := by decide +kernel
  have kept : Kept "-40" := written ▸ .whole (-40) (by decide)
  exact ⟨s, loaded, (text_of_variable_iff denotes last loaded).2.mpr kept⟩

/-- A version and an id that read as numbers, and are spelled in another way than these are written. -/
theorem reworded_texts :
    let set := [("AI_FABRIC__WORKER__VERSION", "1.10"), ("AI_FABRIC__WORKER__WORKER_ID", "007")]
    ∃ s, load "w-1" ⟨none, some set⟩ = some (.ok s) ∧
      s.worker.version = "1.1" ∧ s.worker.workerId = "7" := by
  intro set
  have texts : (loaded? "w-1" ⟨none, some set⟩).map (fun s => (s.worker.version, s.worker.workerId)) =
      some ("1.1", "7") := by
    decide +kernel
  obtain ⟨s, there, texts⟩ := Option.map_eq_some_iff.mp texts
  exact ⟨s, load_of_loaded? there, Prod.mk.inj texts⟩

end WorkDispatch.Settings
