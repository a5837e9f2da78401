import NoteTemplates.Settings.Basic

/-!
# Cached settings

Settings are made once and kept. A program may ask for them, have them made anew, drop them,
change what they are made from, and override some of them in a block; when a block is left,
for whatever reason, the cache is again what it was when the block was entered.
-/

namespace NoteTemplates

/-- Settings with the number of the object that holds them. -/
structure SettingsObject where
  number : Nat
  settings : Settings
  deriving DecidableEq, Repr

/--
The cache, what settings are made from (the environment, and what reading the file of
settings gives), and the number of the next object.
-/
structure SettingsCache where
  environment : Environment
  file : Except Failure (Option Bytes) := .ok none
  cached : Option SettingsObject := none
  next : Nat := 0

/-- The settings that a block overrides. -/
structure SettingsChanges where
  base : Option Path := none
  templates : Option (Option Path) := none
  editor : Option (Option Text) := none
  logLevel : Option Text := none
  logFormat : Option Text := none
  logFile : Option (Option Path) := none
  environmentName : Option Text := none
  deriving DecidableEq, Repr

namespace SettingsChanges

/-- Settings with the changes made. -/
def apply (c : SettingsChanges) (s : Settings) : Settings :=
  { base := c.base.getD s.base
    templates := c.templates.getD s.templates
    editor := c.editor.getD s.editor
    logLevel := c.logLevel.getD s.logLevel
    logFormat := c.logFormat.getD s.logFormat
    logFile := c.logFile.getD s.logFile
    environmentName := c.environmentName.getD s.environmentName }

end SettingsChanges

namespace SettingsCache

/-- A new object, which the cache does not hold yet. -/
def fresh (c : SettingsCache) (settings : Settings) : SettingsObject × SettingsCache :=
  ({ number := c.next, settings }, { c with next := c.next + 1 })

/-- The settings made from the environment and the file of settings. -/
def build (c : SettingsCache) : Except Failure (SettingsObject × SettingsCache) := do
  let found ← Settings.said c.environment (← c.file)
  return c.fresh (Settings.ofSources c.environment found.values)

/-- The cached settings; they are made if there are none or if they are to be made anew. -/
def get (c : SettingsCache) (refresh : Bool) : Except Failure (SettingsObject × SettingsCache) :=
  match c.cached, refresh with
  | some o, false => .ok (o, c)
  | _, _ => c.build.map fun (o, c) => (o, { c with cached := some o })

/-- The object of a block: the cached settings, or new ones, with the changes made. -/
def patched (c : SettingsCache) (changes : SettingsChanges) :
    Except Failure (SettingsObject × SettingsCache) :=
  match c.cached with
  | some o => .ok (c.fresh (changes.apply o.settings))
  | none => c.build.map fun (o, c) => c.fresh (changes.apply o.settings)

/--
One step of a program that works with the cache. A file that cannot be read stays so, whatever
is written to it. A guarded body may fail for whatever reason, and the program goes on.
-/
inductive Step where
  | get (refresh : Bool)
  | clear
  | setVariable (name : Text) (value : Option Text)
  | setFile (content : Bytes)
  | override (changes : SettingsChanges) (body : List Step)
  | guard (body : List Step)
  | fail (failure : Failure)

/-- Settings that a step shows, and the environment at that moment. -/
structure Shown where
  object : SettingsObject
  environment : Environment
  deriving Repr

/-- What a step answers. -/
inductive Answer where
  | shown (s : Shown)
  | done
  | block (s : Shown) (body : List Answer)
  | guarded (body : List Answer) (failure : Option Failure)

mutual

/-- Runs one step: its answer, the failure it ends with, and the cache it leaves. -/
def run : Step → SettingsCache → Answer × Option Failure × SettingsCache
  | .get refresh, c =>
    match c.get refresh with
    | .ok (o, c) => (.shown ⟨o, c.environment⟩, none, c)
    | .error failure => (.done, some failure, c)
  | .clear, c => (.done, none, { c with cached := none })
  | .setVariable name (some value), c =>
    (.done, none, { c with environment := c.environment.put name value })
  | .setVariable name none, c =>
    (.done, none, { c with environment := c.environment.remove name })
  | .setFile content, c => (.done, none, { c with file := c.file.map fun _ => some content })
  | .override changes body, c =>
    match c.patched changes with
    | .error failure => (.done, some failure, c)
    | .ok (o, inner) =>
      let (answers, failure, after) := runAll body { inner with cached := some o }
      (.block ⟨o, inner.environment⟩ answers, failure, { after with cached := c.cached })
  | .guard body, c =>
    let (answers, failure, after) := runAll body c
    (.guarded answers failure, none, after)
  | .fail failure, c => (.done, some failure, c)

/-- Runs steps up to the first that fails. -/
def runAll : List Step → SettingsCache → List Answer × Option Failure × SettingsCache
  | [], c => ([], none, c)
  | step :: steps, c =>
    match run step c with
    | (answer, some failure, c) => ([answer], some failure, c)
    | (answer, none, c) =>
      let (answers, failure, c) := runAll steps c
      (answer :: answers, failure, c)

end

end SettingsCache
end NoteTemplates
