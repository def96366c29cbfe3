import LocalRecords.Command.Line
import LocalRecords.Proofs.Message.Values
import LocalRecords.Proofs.Settings.Decimal

namespace LocalRecords

attribute [ext] Overrides

/-- An encoded text is empty only if the text is. -/
theorem Utf8.encode_eq_nil_iff {s : String} : encode s = [] ↔ s = "" := by
  rw [encode_eq, List.flatMap_eq_nil_iff]
  constructor
  · intro hnone
    have hempty : s.toList = [] := by
      apply List.eq_nil_iff_forall_not_mem.mpr
      intro c hc
      have hlength := String.length_utf8EncodeChar c
      rw [hnone c hc] at hlength
      exact absurd hlength.symm (Nat.ne_of_gt c.utf8Size_pos)
    exact String.toList_eq_nil_iff.mp hempty
  · rintro rfl c hc
    cases hc

namespace Environment

variable (env : Environment)

def GivesPath (path : Bytes) : Prop :=
  ∃ value, env "UDSOCK_SOCKET" = some value ∧ value ≠ "" ∧ path = Utf8.encode value

def GivesKind (kind : SocketType) : Prop :=
  ∃ value, env "UDSOCK_KIND" = some value ∧ SocketType.parse value = .ok kind

def GivesBacklog (backlog : Int32) : Prop :=
  ∃ value, env "UDSOCK_BACKLOG" = some value ∧ Settings.IsDecimal value.toList backlog.toInt

end Environment

namespace Settings

/-- What a setting comes to: the value of the highest layer that gives one. -/
inductive Layered {α : Type} (standard : α) (file : Option α) (environment : α → Prop)
    (commandLine : Option α) : α → Prop
  | ofCommandLine {a : α} (hc : commandLine = some a) :
      Layered standard file environment commandLine a
  | ofEnvironment {a : α} (hc : commandLine = none) (he : environment a) :
      Layered standard file environment commandLine a
  | ofFile {a : α} (hc : commandLine = none) (he : ∀ b, ¬ environment b) (hf : file = some a) :
      Layered standard file environment commandLine a
  | ofStandard (hc : commandLine = none) (he : ∀ b, ¬ environment b) (hf : file = none) :
      Layered standard file environment commandLine standard

/-- One value after the other over the one before it. -/
theorem getD_eq_iff_layered {α : Type} {standard : α} {file given : Option α}
    {environment : α → Prop} {commandLine : Option α}
    (hgiven : ∀ a, given = some a ↔ environment a) (a : α) :
    commandLine.getD (given.getD (file.getD standard)) = a ↔
      Layered standard file environment commandLine a := by
  constructor
  · rintro rfl
    cases hc : commandLine with
    | some b => exact .ofCommandLine rfl
    | none =>
      cases hg : given with
      | some b => exact .ofEnvironment rfl ((hgiven b).mp hg)
      | none =>
        have hnone : ∀ b, ¬ environment b := by
          intro b hb
          rw [(hgiven b).mpr hb] at hg
          cases hg
        cases file with
        | some b => exact .ofFile rfl hnone rfl
        | none => exact .ofStandard rfl hnone rfl
  · intro hlayered
    have hgone (hnone : ∀ b, ¬ environment b) : given = none :=
      Option.eq_none_iff_forall_ne_some.mpr fun b hb => hnone b ((hgiven b).mp hb)
    cases hlayered with
    | ofCommandLine hc => rw [hc, Option.getD_some]
    | ofEnvironment hc he => rw [hc, (hgiven a).mpr he, Option.getD_none, Option.getD_some]
    | ofFile hc he hf => rw [hc, hgone he, hf, Option.getD_none, Option.getD_none, Option.getD_some]
    | ofStandard hc he hf =>
      rw [hc, hgone he, hf, Option.getD_none, Option.getD_none, Option.getD_none]

section OfEnvironment

variable {env : Environment}

/-- A path is taken from the environment exactly if its variable holds one. -/
theorem ofEnvironment_path (path : Bytes) :
    (ofEnvironment env).path = some path ↔ env.GivesPath path := by
  rw [ofEnvironment, Option.filter_eq_some_iff, Option.map_eq_some_iff]
  constructor
  · rintro ⟨⟨value, hvalue, rfl⟩, hsome⟩
    refine ⟨value, hvalue, ?_, rfl⟩
    rintro rfl
    cases hsome
  · rintro ⟨value, hvalue, hsome, rfl⟩
    refine ⟨⟨value, hvalue, rfl⟩, ?_⟩
    rw [Bool.not_eq_true', List.isEmpty_eq_false_iff, Ne, Utf8.encode_eq_nil_iff]
    exact hsome

theorem ofEnvironment_kind (kind : SocketType) :
    (ofEnvironment env).kind = some kind ↔ env.GivesKind kind := by
  rw [ofEnvironment, Option.bind_eq_some_iff]
  apply exists_congr
  intro value
  apply and_congr_right
  intro _
  cases SocketType.parse value <;> simp [Except.toOption]

theorem ofEnvironment_backlog (backlog : Int32) :
    (ofEnvironment env).backlog = some backlog ↔ env.GivesBacklog backlog := by
  rw [ofEnvironment, Option.bind_eq_some_iff]
  exact exists_congr fun value => and_congr_right fun _ => parseInt32_eq_some_iff

end OfEnvironment

def Unusable (name value : String) : Prop :=
  name = "UDSOCK_SOCKET" ∧ value = "" ∨
    name = "UDSOCK_KIND" ∧ (∀ kind, SocketType.parse value ≠ .ok kind) ∨
    name = "UDSOCK_BACKLOG" ∧ ∀ backlog : Int32, ¬ IsDecimal value.toList backlog.toInt

theorem unusable_path_iff {value : String} : Unusable "UDSOCK_SOCKET" value ↔ value = "" := by
  simp [Unusable]

theorem unusable_kind_iff {value : String} :
    Unusable "UDSOCK_KIND" value ↔ ∀ kind, SocketType.parse value ≠ .ok kind := by
  simp [Unusable]

theorem unusable_backlog_iff {value : String} :
    Unusable "UDSOCK_BACKLOG" value ↔ ∀ n : Int32, ¬ IsDecimal value.toList n.toInt := by
  simp [Unusable]

/-- An environment in which some of the values that are of no use are not there. -/
def Cleared (env cleared : Environment) : Prop :=
  ∀ name, cleared name = env name ∨
    cleared name = none ∧ ∃ value, env name = some value ∧ Unusable name value

namespace Cleared

variable {env cleared : Environment}

/-- What is made of the values that are of use is still made of them, and nothing else is. -/
theorem gives_iff (h : Cleared env cleared) {name : String} {P : String → Prop}
    (hname : ∀ value, Unusable name value → ¬ P value) :
    (∃ value, cleared name = some value ∧ P value) ↔ ∃ value, env name = some value ∧ P value := by
  obtain hsame | ⟨hnone, old, hold, hunusable⟩ := h name
  · rw [hsame]
  · constructor
    · rintro ⟨value, hvalue, -⟩
      rw [hnone] at hvalue
      cases hvalue
    · rintro ⟨value, hvalue, hP⟩
      obtain rfl : old = value := Option.some.inj (hold.symm.trans hvalue)
      exact absurd hP (hname old hunusable)

theorem standard_eq (h : Cleared env cleared) (account : Account) :
    standard cleared account = standard env account := by
  have hname : cleared "XDG_RUNTIME_DIR" = env "XDG_RUNTIME_DIR" := by
    obtain hsame | ⟨-, value, -, hunusable⟩ := h "XDG_RUNTIME_DIR"
    · exact hsame
    · simp [Unusable] at hunusable
  rw [standard, standard, standardPath, standardPath, directoryOf, directoryOf, hname]

/-- Values that are of no use set what no values set. -/
theorem ofEnvironment_eq (h : Cleared env cleared) : ofEnvironment cleared = ofEnvironment env := by
  apply Overrides.ext <;> apply Option.ext
  · intro path
    rw [ofEnvironment_path, ofEnvironment_path]
    apply h.gives_iff
    intro value hunusable hgives
    exact hgives.1 (unusable_path_iff.mp hunusable)
  · intro kind
    rw [ofEnvironment_kind, ofEnvironment_kind]
    apply h.gives_iff
    intro value hunusable
    exact unusable_kind_iff.mp hunusable kind
  · intro backlog
    rw [ofEnvironment_backlog, ofEnvironment_backlog]
    apply h.gives_iff
    intro value hunusable
    exact unusable_backlog_iff.mp hunusable backlog

end Cleared

section Load

variable {files : Files} (env : Environment) (account : Account) {path : Option Bytes}

def fileSettings (files : Files) : Option Bytes → Except SettingsFailure (Option FileSettings)
  | none => .ok none
  | some path => readFile files path

def belowEnvironment (env : Environment) (account : Account) :
    Option Bytes → Option FileSettings → Settings
  | some path, some set => (standard env account).withFile path set
  | _, _ => standard env account

/-- Loading puts what the environment gives over the settings of the file and the defaults. -/
theorem load_of_ok {set : Option FileSettings} (hfile : fileSettings files path = .ok set) :
    load files env account path =
      .ok ((belowEnvironment env account path set).withOverrides .environment
        (ofEnvironment env)) := by
  cases path with
  | none =>
    obtain rfl := Except.ok.inj hfile
    rfl
  | some path =>
    rw [fileSettings] at hfile
    rw [load]
    simp only [hfile]
    cases set <;> rfl

/-- A file that sets nothing, or that is not there, leaves the defaults. -/
theorem belowEnvironment_eq {set : Option FileSettings}
    (hfile : fileSettings files path = .ok set) :
    let c := belowEnvironment env account path set
    c.path = (set.bind (·.path)).getD (standardPath env account) ∧
      c.kind = (set.bind (·.kind)).getD .stream ∧
      c.backlog = (set.bind (·.backlog)).getD 16 ∧
      c.readSize = (set.bind (·.readSize)).getD 65536 ∧
      c.limits.payload = (set.bind (·.payloadLimit)).getD 10485760 ∧
      c.limits.metadata = (set.bind (·.metadataLimit)).getD 10485760 := by
  intro c
  cases path with
  | none =>
    obtain rfl := Except.ok.inj hfile
    exact ⟨rfl, rfl, rfl, rfl, rfl, rfl⟩
  | some path =>
    cases set with
    | none => exact ⟨rfl, rfl, rfl, rfl, rfl, rfl⟩
    | some set => exact ⟨rfl, rfl, rfl, rfl, rfl, rfl⟩

end Load

theorem withOverrides_empty (c : Settings) (layer : Layer) : c.withOverrides layer {} = c := rfl

/-- What was set once is set. -/
theorem withOverrides_again (c : Settings) (layer : Layer) (o : Overrides) :
    (c.withOverrides layer o).withOverrides layer o = c.withOverrides layer o := by
  have hagain {α : Type} (given : Option α) (a : α) : given.getD (given.getD a) = given.getD a := by
    cases given <;> rfl
  rw [withOverrides, withOverrides]
  dsimp only
  rw [hagain, hagain, hagain]
  cases o.isSet <;> rfl

section Layers

variable {files : Files} (env : Environment) (account : Account) {path : Option Bytes}
  {set : Option FileSettings}

/-- Whatever the file sets, if there is one, whatever the environment holds and whatever the command
line gives, loading succeeds, and then path, kind and backlog are each that of the command line, or
else that of the environment if it can be used, or else that of the file, or else the default; the
sizes are those of the file or the default. Values of the environment that cannot be used may as
well not be there: all that is loaded is the same, its source included. What the command line gives
changes nothing when it is given again, nor does a command line that gives nothing. The commands
load their settings so. -/
theorem load_layers (hfile : fileSettings files path = .ok set) (o : Overrides) :
    ∃ c, load files env account path = .ok c ∧
      let d := c.withOverrides .commandLine o
      (∀ x, d.path = x ↔
        Layered (standardPath env account) (set.bind (·.path)) env.GivesPath o.path x) ∧
      (∀ x, d.kind = x ↔ Layered .stream (set.bind (·.kind)) env.GivesKind o.kind x) ∧
      (∀ x, d.backlog = x ↔ Layered 16 (set.bind (·.backlog)) env.GivesBacklog o.backlog x) ∧
      d.readSize = (set.bind (·.readSize)).getD 65536 ∧
      d.limits.payload = (set.bind (·.payloadLimit)).getD 10485760 ∧
      d.limits.metadata = (set.bind (·.metadataLimit)).getD 10485760 ∧
      (∀ cleared, Cleared env cleared → load files cleared account path = .ok c) ∧
      d.withOverrides .commandLine o = d ∧ d.withOverrides .commandLine {} = d ∧
      ∀ g, path = some (CommandLine.settingsFile env account g) → o = CommandLine.overrides g →
        CommandLine.settings files env account g = .ok d := by
  obtain ⟨hpath, hkind, hbacklog, hread, hpayload, hmetadata⟩ :=
    belowEnvironment_eq env account hfile
  have hload := load_of_ok env account hfile
  refine ⟨_, hload, ?_, ?_, ?_, hread, hpayload, hmetadata, ?_, withOverrides_again _ _ _,
    withOverrides_empty _ _, ?_⟩
  · intro x
    rw [← getD_eq_iff_layered ofEnvironment_path, ← hpath]
    rfl
  · intro x
    rw [← getD_eq_iff_layered ofEnvironment_kind, ← hkind]
    rfl
  · intro x
    rw [← getD_eq_iff_layered ofEnvironment_backlog, ← hbacklog]
    rfl
  · intro cleared hcleared
    -- The environment is read twice, for the default path and for the values it gives.
    have hbelow : belowEnvironment cleared account path set =
        belowEnvironment env account path set := by
      rw [belowEnvironment.eq_def, hcleared.standard_eq account]
      rfl
    rw [load_of_ok cleared account hfile, hbelow, hcleared.ofEnvironment_eq]
  · rintro g rfl rfl
    rw [CommandLine.settings, hload]

/-- A file that sets kind and backlog, an environment with an empty path, a kind that there is none
of and a backlog, and a command line with a path. Without the first two of the environment all is
the same. -/
theorem load_layers_mixed :
    let text := "[transport]\nbacklog = 3\nkind = \"datagram\"\n"
    let files := Files.plantAt {} [0x2F, 0x63] (.file (Utf8.encode text))
    let env : Environment := fun name =>
      [("UDSOCK_SOCKET", ""), ("UDSOCK_KIND", "pipe"), ("UDSOCK_BACKLOG", "+08")].lookup name
    let cleared : Environment := fun name => [("UDSOCK_BACKLOG", "+08")].lookup name
    let account : Account := { uid := 7, home := [] }
    fileSettings files (some [0x2F, 0x63]) =
        .ok (some { kind := some .datagram, backlog := some 3 }) ∧
      ∃ c, load files env account (some [0x2F, 0x63]) = .ok c ∧
        load files cleared account (some [0x2F, 0x63]) = .ok c ∧
        let d := c.withOverrides .commandLine { path := some [0x61] }
        d.path = [0x61] ∧ d.kind = .datagram ∧ d.backlog = 8 ∧ d.readSize = 65536 ∧
          d.withOverrides .commandLine { path := some [0x61] } = d := by
  intro text files env cleared account
  have hfile : fileSettings files (some [0x2F, 0x63]) =
      .ok (some { kind := some .datagram, backlog := some 3 }) := by
    decide +kernel
  have hpipe (kind : SocketType) : SocketType.parse "pipe" ≠ .ok kind := by
    have herror : SocketType.parse "pipe" = .error "pipe" := by decide +kernel
    rw [herror]
    exact fun hok => nomatch hok
  have hcleared : Cleared env cleared := by
    intro name
    by_cases hsocket : name = "UDSOCK_SOCKET"
    · subst hsocket
      exact .inr ⟨rfl, "", rfl, unusable_path_iff.mpr rfl⟩
    by_cases hkind : name = "UDSOCK_KIND"
    · subst hkind
      exact .inr ⟨rfl, "pipe", rfl, unusable_kind_iff.mpr hpipe⟩
    · left
      simp only [env, cleared, List.lookup_cons, beq_eq_false_iff_ne.mpr hsocket,
        beq_eq_false_iff_ne.mpr hkind]
  have hdecimal : IsDecimal ['+', '0', '8'] 8 := .plus (by decide) (List.all_eq_true.mp rfl)
  obtain ⟨c, hload, hpath, hkind, hbacklog, hread, -, -, hsame, hagain, -⟩ :=
    load_layers env account hfile { path := some [0x61] }
  refine ⟨hfile, c, hload, hsame cleared hcleared, ?_, ?_, ?_, hread, hagain⟩
  · exact (hpath _).mpr (.ofCommandLine rfl)
  · apply (hkind _).mpr
    refine .ofFile rfl ?_ rfl
    rintro kind ⟨value, hvalue, hparse⟩
    obtain rfl : "pipe" = value := Option.some.inj hvalue
    exact hpipe kind hparse
  · exact (hbacklog 8).mpr (.ofEnvironment rfl ⟨"+08", rfl, hdecimal⟩)

end Layers

end Settings

end LocalRecords
