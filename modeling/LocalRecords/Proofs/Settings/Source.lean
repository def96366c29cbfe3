import LocalRecords.Proofs.Settings.Layers

namespace LocalRecords

def Environment.Gives (env : Environment) : Prop :=
  (∃ path, env.GivesPath path) ∨ (∃ kind, env.GivesKind kind) ∨
    ∃ backlog, env.GivesBacklog backlog

theorem Overrides.isSet_iff {o : Overrides} :
    o.isSet ↔ (∃ path, o.path = some path) ∨ (∃ kind, o.kind = some kind) ∨
      ∃ backlog, o.backlog = some backlog := by
  rw [isSet, Bool.or_eq_true, Bool.or_eq_true, or_assoc, Option.isSome_iff_exists,
    Option.isSome_iff_exists, Option.isSome_iff_exists]

theorem Overrides.isSet_iff_ne {o : Overrides} : o.isSet ↔ o ≠ {} := by
  constructor
  · rintro hset rfl
    cases hset
  · intro hne
    by_contra hnone
    rw [isSet, Bool.or_eq_true, Bool.or_eq_true, not_or, not_or, Option.not_isSome_iff_eq_none,
      Option.not_isSome_iff_eq_none, Option.not_isSome_iff_eq_none] at hnone
    obtain ⟨⟨hpath, hkind⟩, hbacklog⟩ := hnone
    exact hne (Overrides.ext hpath hkind hbacklog)

namespace Settings

theorem ofEnvironment_isSet_iff {env : Environment} : (ofEnvironment env).isSet ↔ env.Gives := by
  rw [Overrides.isSet_iff, Environment.Gives]
  simp only [ofEnvironment_path, ofEnvironment_kind, ofEnvironment_backlog]

/-- The highest layer that gives a setting, where `file` says whether the file does. The defaults
give those that nothing else does. -/
inductive Highest (file : Prop) (env : Environment) (o : Overrides) : Layer → Prop
  | ofCommandLine (ho : o ≠ {}) : Highest file env o .commandLine
  | ofEnvironment (ho : o = {}) (he : env.Gives) : Highest file env o .environment
  | ofFile (ho : o = {}) (he : ¬ env.Gives) (hf : file) : Highest file env o .file
  | ofStandard (ho : o = {}) (he : ¬ env.Gives) (hf : ¬ file) : Highest file env o .standard

/-- It matters only where neither command line nor environment gives anything. -/
theorem Highest.iff_of_highest {p q : Prop} {env : Environment} {o : Overrides} {layer : Layer}
    (h : Highest p env o layer) :
    Highest q env o layer ↔ (o = {} → ¬ env.Gives → (p ↔ q)) := by
  cases h with
  | ofCommandLine ho => exact ⟨fun _ hnone => absurd hnone ho, fun _ => .ofCommandLine ho⟩
  | ofEnvironment ho he => exact ⟨fun _ _ hnone => absurd he hnone, fun _ => .ofEnvironment ho he⟩
  | ofFile ho he hp =>
    constructor
    · intro hq _ _
      cases hq with
      | ofFile _ _ hq => exact iff_of_true hp hq
    · intro hiff
      exact .ofFile ho he ((hiff ho he).mp hp)
  | ofStandard ho he hp =>
    constructor
    · intro hq _ _
      cases hq with
      | ofStandard _ _ hq => exact iff_of_false hp hq
    · intro hiff
      exact .ofStandard ho he (fun hq => hp ((hiff ho he).mpr hq))

section Load

variable {files : Files} (env : Environment) (account : Account) {path : Option Bytes}
  {set : Option FileSettings}

/-- A file is named as soon as there is one. -/
theorem highest_source (hfile : fileSettings files path = .ok set) (o : Overrides) :
    Highest (set ≠ none) env o
      (((belowEnvironment env account path set).withOverrides .environment
        (ofEnvironment env)).withOverrides .commandLine o).source := by
  rw [withOverrides, withOverrides]
  dsimp only
  split
  next ho => exact .ofCommandLine (Overrides.isSet_iff_ne.mp ho)
  next ho =>
    have ho : o = {} := not_ne_iff.mp (mt Overrides.isSet_iff_ne.mpr ho)
    split
    next he => exact .ofEnvironment ho (ofEnvironment_isSet_iff.mp he)
    next he =>
      have he : ¬ env.Gives := mt ofEnvironment_isSet_iff.mpr he
      cases path with
      | none =>
        obtain rfl := Except.ok.inj hfile
        exact .ofStandard ho he (fun hne => hne rfl)
      | some path =>
        cases set with
        | none => exact .ofStandard ho he (fun hne => hne rfl)
        | some set => exact .ofFile ho he (Option.some_ne_none set)

/-- Loading gives settings with the name of the layer they come from. It is the command line if that
gives anything, else the environment if a value of it can be used, else the file if there is one,
else the defaults. So it is the highest layer that gives a setting, unless a file that sets nothing
is all that there is. Then the file is named, and all settings are defaults. -/
theorem source_truthful_iff (hfile : fileSettings files path = .ok set) (o : Overrides) :
    ∃ c, load files env account path = .ok c ∧
      let d := c.withOverrides .commandLine o
      Highest (set ≠ none) env o d.source ∧
      (Highest (∃ s, set = some s ∧ s ≠ {}) env o d.source ↔
        ¬ (set = some {} ∧ ¬ env.Gives ∧ o = {})) ∧
      (set = some {} → ¬ env.Gives → o = {} →
        d = { standard env account with file := path, source := .file }) := by
  have hnamed := highest_source env account hfile o
  refine ⟨_, load_of_ok env account hfile, hnamed, ?_, ?_⟩
  · rw [hnamed.iff_of_highest]
    -- A file that is there and one that sets something differ in the empty one only.
    constructor
    · rintro hsame ⟨rfl, he, ho⟩
      obtain ⟨s, hs, hsome⟩ := (hsame ho he).mp (Option.some_ne_none _)
      exact hsome (Option.some.inj hs).symm
    · intro hother ho he
      constructor
      · intro hne
        obtain ⟨s, hs⟩ := Option.ne_none_iff_exists'.mp hne
        refine ⟨s, hs, ?_⟩
        rintro rfl
        exact hother ⟨hs, he, ho⟩
      · rintro ⟨s, hs, -⟩
        rw [hs]
        exact Option.some_ne_none s
  · rintro rfl he rfl
    have hnothing : ofEnvironment env = {} :=
      not_ne_iff.mp fun hne => he (ofEnvironment_isSet_iff.mp (Overrides.isSet_iff_ne.mpr hne))
    rw [hnothing, withOverrides_empty, withOverrides_empty]
    cases path with
    | none => cases hfile
    | some path => rfl

end Load

/-- A file that sets nothing below an environment with a backlog, which is what is named. -/
theorem source_truthful_iff_environment :
    let files := Files.plantAt {} [0x2F, 0x63] (.file [])
    let env : Environment := fun name => [("UDSOCK_BACKLOG", "-1")].lookup name
    let account : Account := { uid := 7, home := [] }
    fileSettings files (some [0x2F, 0x63]) = .ok (some {}) ∧ env.Gives ∧
      ∃ c, load files env account (some [0x2F, 0x63]) = .ok c ∧
        (c.withOverrides .commandLine {}).source = .environment ∧
        Highest (∃ s, some ({} : FileSettings) = some s ∧ s ≠ {}) env {}
          (c.withOverrides .commandLine {}).source := by
  intro files env account
  have hfile : fileSettings files (some [0x2F, 0x63]) = .ok (some {}) := by decide +kernel
  have hdecimal : IsDecimal ['-', '1'] (-1) := .minus (by decide) (List.all_eq_true.mp rfl)
  have hgives : env.Gives := .inr (.inr ⟨-1, "-1", rfl, hdecimal⟩)
  obtain ⟨c, hload, hnamed, htruthful, -⟩ :=
    source_truthful_iff env account hfile {}
  have hsource : (c.withOverrides .commandLine {}).source = .environment := by
    generalize (c.withOverrides .commandLine {}).source = layer at hnamed
    cases hnamed with
    | ofCommandLine ho => exact absurd rfl ho
    | ofEnvironment => rfl
    | ofFile _ hnone => exact absurd hgives hnone
    | ofStandard _ hnone => exact absurd hgives hnone
  exact ⟨hfile, hgives, c, hload, hsource, htruthful.mpr fun hnothing => hnothing.2.1 hgives⟩

/-- A file without a word: everything is a default, and the file is named. -/
theorem source_names_empty_file :
    let files := Files.plantAt {} [0x2F, 0x63] (.file [])
    let env : Environment := fun _ => none
    let account : Account := { uid := 7, home := [] }
    fileSettings files (some [0x2F, 0x63]) = .ok (some {}) ∧
      ∃ c, load files env account (some [0x2F, 0x63]) = .ok c ∧
        c.withOverrides .commandLine {} =
          { standard env account with file := some [0x2F, 0x63], source := .file } ∧
        ¬ Highest (∃ s, some ({} : FileSettings) = some s ∧ s ≠ {}) env {}
          (c.withOverrides .commandLine {}).source := by
  intro files env account
  have hfile : fileSettings files (some [0x2F, 0x63]) = .ok (some {}) := by decide +kernel
  refine ⟨hfile, _, load_of_ok env account hfile, ?_, ?_⟩
  · rfl
  · intro hhighest
    cases hhighest with
    | ofFile _ _ hf =>
      obtain ⟨s, hs, hsome⟩ := hf
      exact hsome (Option.some.inj hs).symm

end Settings

end LocalRecords
