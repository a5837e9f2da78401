import NoteTemplates.Settings.Cache

/-!
# Overrides unwind

A program that works with the cache of settings goes through moments: settings are got or made
anew, the cache is cleared, what settings are made from is changed, a block is entered or left.
The moments are read off the run, and between two of them nothing happens to the cache.

What the cache holds at each moment is what a stack says that knows nothing of settings:
entering a block puts what is cached on the stack, leaving a block takes it off and back into
the cache. That is the invariant, proved once along the program (`conforms_trace`); the
results only look at stacks. Blocks nest, every block that is entered is left, whether its
body fails or not, and then the cache is what it was when the block was entered.
-/

namespace NoteTemplates

/-- A field holds the value that overrides it, or what it held before if there is none. -/
def IsOverridden {α : Type} (value : Option α) (field before : α) : Prop :=
  value = some field ∨ value = none ∧ field = before

theorem isOverridden_getD {α : Type} (value : Option α) (before : α) :
    IsOverridden value (value.getD before) before := by
  cases value with
  | none => exact Or.inr ⟨rfl, rfl⟩
  | some new => exact Or.inl rfl

/--
The patched settings hold the changes, and are the given ones in every field that is not
changed.
-/
structure SettingsChanges.Agree (changes : SettingsChanges) (patched s : Settings) : Prop where
  base : IsOverridden changes.base patched.base s.base
  templates : IsOverridden changes.templates patched.templates s.templates
  editor : IsOverridden changes.editor patched.editor s.editor
  logLevel : IsOverridden changes.logLevel patched.logLevel s.logLevel
  logFormat : IsOverridden changes.logFormat patched.logFormat s.logFormat
  logFile : IsOverridden changes.logFile patched.logFile s.logFile
  environmentName :
    IsOverridden changes.environmentName patched.environmentName s.environmentName

theorem SettingsChanges.agree_apply (changes : SettingsChanges) (s : Settings) :
    changes.Agree (changes.apply s) s :=
  ⟨isOverridden_getD _ _, isOverridden_getD _ _, isOverridden_getD _ _, isOverridden_getD _ _,
    isOverridden_getD _ _, isOverridden_getD _ _, isOverridden_getD _ _⟩

namespace SettingsCache

/-- What happens at a moment of a program. -/
inductive Event where
  | got (o : SettingsObject)
  | refreshed (o : SettingsObject)
  | cleared
  | changed
  | entered (changes : SettingsChanges) (o : SettingsObject)
  | left

/-- The object that is handed to the program. -/
def Event.object? : Event → Option SettingsObject
  | got o => some o
  | refreshed o => some o
  | entered _ o => some o
  | cleared => none
  | changed => none
  | left => none

/-- An event with the cache right before and right after it. -/
structure Moment where
  before : SettingsCache
  event : Event
  after : SettingsCache

mutual

/-- The moments of one step. -/
def trace : Step → SettingsCache → List Moment
  | .get refresh, c =>
    match c.get refresh with
    | .ok (o, after) => [⟨c, if refresh then .refreshed o else .got o, after⟩]
    | .error _ => []
  | .clear, c => [⟨c, .cleared, (run .clear c).2.2⟩]
  | .setVariable name value, c => [⟨c, .changed, (run (.setVariable name value) c).2.2⟩]
  | .setFile content, c => [⟨c, .changed, (run (.setFile content) c).2.2⟩]
  | .override changes body, c =>
    match c.patched changes with
    | .ok (o, made) =>
      let inside := { made with cached := some o }
      ⟨c, .entered changes o, inside⟩ ::
        (traceAll body inside ++
          [⟨(runAll body inside).2.2, .left, (run (.override changes body) c).2.2⟩])
    | .error _ => []
  | .guard body, c => traceAll body c
  | .fail _, _ => []

/-- The moments of steps up to the first that fails. -/
def traceAll : List Step → SettingsCache → List Moment
  | [], _ => []
  | step :: steps, c =>
    trace step c ++
      match run step c with
      | (_, none, after) => traceAll steps after
      | (_, some _, _) => []

end

mutual

/-- The objects that an answer shows. -/
def Answer.objects : Answer → List SettingsObject
  | .shown s => [s.object]
  | .done => []
  | .block s body => s.object :: Answer.objectsOf body
  | .guarded body _ => Answer.objectsOf body

/-- The objects that answers show, in their order. -/
def Answer.objectsOf : List Answer → List SettingsObject
  | [] => []
  | answer :: answers => answer.objects ++ Answer.objectsOf answers

end

/-- Moments that follow one another from one cache to another. -/
inductive Linked : SettingsCache → List Moment → SettingsCache → Prop
  | nil (c : SettingsCache) : Linked c [] c
  | cons {c d z : SettingsCache} {moments : List Moment} (event : Event)
      (rest : Linked d moments z) : Linked c (⟨c, event, d⟩ :: moments) z

/-- Whether a block is entered at a moment. -/
def Moment.Enters (m : Moment) : Prop :=
  ∃ changes o, m.event = .entered changes o

/-- Whether a block is left at a moment. -/
def Moment.Leaves (m : Moment) : Prop :=
  m.event = .left

/-- Moments at which every block that is entered is left again. -/
inductive Balanced : List Moment → Prop
  | nil : Balanced []
  | within {m : Moment} {rest : List Moment} (stays : ¬ m.Enters ∧ ¬ m.Leaves)
      (further : Balanced rest) : Balanced (m :: rest)
  | block {m l : Moment} {inner rest : List Moment} (enters : m.Enters) (body : Balanced inner)
      (leaves : l.Leaves) (further : Balanced rest) : Balanced (m :: (inner ++ l :: rest))

/--
Moments at which nothing is made anew and nothing is cleared, but in blocks that are entered
and left again.
-/
inductive Undisturbed : List Moment → Prop
  | nil : Undisturbed []
  | got {m : Moment} {rest : List Moment} (gets : ∃ o, m.event = .got o)
      (further : Undisturbed rest) : Undisturbed (m :: rest)
  | changed {m : Moment} {rest : List Moment} (changes : m.event = .changed)
      (further : Undisturbed rest) : Undisturbed (m :: rest)
  | block {m l : Moment} {inner rest : List Moment} (enters : m.Enters) (body : Balanced inner)
      (leaves : l.Leaves) (further : Undisturbed rest) : Undisturbed (m :: (inner ++ l :: rest))

/-- What is cached, and what was cached when each of the open blocks was entered. -/
structure Stack where
  cached : Option SettingsObject
  saved : List (Option SettingsObject)

/-- What an event makes of a stack. -/
def Stack.act (s : Stack) : Event → Stack
  | .got o => { s with cached := some o }
  | .refreshed o => { s with cached := some o }
  | .cleared => { s with cached := none }
  | .changed => s
  | .entered _ o => { cached := some o, saved := s.cached :: s.saved }
  | .left => { cached := s.saved.head?.join, saved := s.saved.tail }

/-- What events make of a stack, one after the other. -/
def Stack.replay (s : Stack) (moments : List Moment) : Stack :=
  moments.foldl (fun s m => s.act m.event) s

/-- Settings that are made from an environment and a file. -/
def Builds (c : SettingsCache) (s : Settings) : Prop :=
  ∃ file found, c.file = .ok file ∧ Settings.said c.environment file = .ok found ∧
    s = Settings.ofSources c.environment found.values

/-- The object that an event hands over is the right one for the cache before it. -/
def Moment.IsProper (m : Moment) : Prop :=
  match m.event with
  | .got o => m.before.cached = some o ∨ m.before.cached = none ∧ m.before.Builds o.settings
  | .refreshed o => m.before.Builds o.settings
  | .entered changes o => ∃ s, o.settings = changes.apply s ∧
      (m.before.cached.map (·.settings) = some s ∨ m.before.cached = none ∧ m.before.Builds s)
  | _ => True

/-- Moments at which the cache holds what a stack says. -/
def Conforms : Stack → List Moment → Prop
  | _, [] => True
  | s, m :: moments =>
    m.before.cached = s.cached ∧ m.after.cached = (s.act m.event).cached ∧ m.IsProper ∧
      Conforms (s.act m.event) moments

section Building

variable {c d : SettingsCache} {o : SettingsObject} {changes : SettingsChanges}

theorem build_eq_ok (h : c.build = .ok (o, d)) : c.Builds o.settings ∧ d.cached = c.cached := by
  cases hfile : c.file with
  | error f => simp [build, hfile, bind, Except.bind] at h
  | ok file =>
      cases hsaid : Settings.said c.environment file with
      | error f => simp [build, hfile, hsaid, bind, Except.bind] at h
      | ok found =>
          simp only [build, hfile, hsaid, bind, Except.bind, pure, Except.pure, fresh,
            Except.ok.injEq, Prod.mk.injEq] at h
          obtain ⟨rfl, rfl⟩ := h
          exact ⟨⟨file, found, hfile, hsaid, rfl⟩, rfl⟩

/-- Getting settings hands over what is cached, or what is made, which is cached then. -/
theorem get_eq_ok {refresh : Bool} (h : c.get refresh = .ok (o, d)) :
    d.cached = some o ∧
      (refresh = false ∧ c.cached = some o ∨
        c.Builds o.settings ∧ (refresh = false → c.cached = none)) := by
  have hmade (h : (c.build.map fun made =>
      (made.1, { made.2 with cached := some made.1 })) = .ok (o, d)) :
      d.cached = some o ∧ c.Builds o.settings := by
    cases hbuild : c.build with
    | error f => simp [hbuild, Except.map] at h
    | ok made =>
        simp only [hbuild, Except.map, Except.ok.injEq, Prod.mk.injEq] at h
        obtain ⟨rfl, rfl⟩ := h
        exact ⟨rfl, (build_eq_ok hbuild).1⟩
  cases hcached : c.cached with
  | none =>
      simp only [get, hcached] at h
      exact ⟨(hmade h).1, Or.inr ⟨(hmade h).2, fun _ => rfl⟩⟩
  | some x =>
      cases refresh with
      | false =>
          simp only [get, hcached, Except.ok.injEq, Prod.mk.injEq] at h
          obtain ⟨rfl, rfl⟩ := h
          exact ⟨hcached, Or.inl ⟨rfl, rfl⟩⟩
      | true =>
          simp only [get, hcached] at h
          exact ⟨(hmade h).1, Or.inr ⟨(hmade h).2, fun hno => by cases hno⟩⟩

/-- The object of a block is made of what is cached, or of what is made if nothing is. -/
theorem patched_eq_ok (h : c.patched changes = .ok (o, d)) :
    ∃ s, o.settings = changes.apply s ∧
      (c.cached.map (·.settings) = some s ∨ c.cached = none ∧ c.Builds s) := by
  cases hcached : c.cached with
  | some x =>
      simp only [patched, hcached, fresh, Except.ok.injEq, Prod.mk.injEq] at h
      obtain ⟨rfl, -⟩ := h
      exact ⟨x.settings, rfl, Or.inl rfl⟩
  | none =>
      cases hbuild : c.build with
      | error f => simp [patched, hcached, hbuild, Except.map] at h
      | ok made =>
          simp only [patched, hcached, hbuild, Except.map, fresh, Except.ok.injEq,
            Prod.mk.injEq] at h
          obtain ⟨rfl, -⟩ := h
          exact ⟨made.1.settings, rfl, Or.inr ⟨rfl, (build_eq_ok hbuild).1⟩⟩

end Building

section Joining

variable {c d z : SettingsCache} {s : Stack} {moments others : List Moment}

theorem Linked.append (h : Linked c moments d) (h' : Linked d others z) :
    Linked c (moments ++ others) z := by
  induction h with
  | nil c => exact h'
  | cons event rest ih => exact .cons event (ih h')

theorem Balanced.append (h : Balanced moments) (h' : Balanced others) :
    Balanced (moments ++ others) := by
  induction h with
  | nil => exact h'
  | within stays _ ih => exact .within stays ih
  | block enters body leaves _ _ ih =>
      rw [List.cons_append, List.append_assoc, List.cons_append]
      exact .block enters body leaves ih

theorem Stack.replay_append (s : Stack) (moments others : List Moment) :
    s.replay (moments ++ others) = (s.replay moments).replay others :=
  List.foldl_append

theorem conforms_append :
    Conforms s (moments ++ others) ↔ Conforms s moments ∧ Conforms (s.replay moments) others := by
  induction moments generalizing s with
  | nil => simp [Conforms, Stack.replay]
  | cons m moments ih =>
      simp only [List.cons_append, Conforms, ih, and_assoc]
      rfl

end Joining

/-- Moments that lead from one cache to another and hand over objects. -/
structure IsTrace (c : SettingsCache) (moments : List Moment) (z : SettingsCache)
    (objects : List SettingsObject) : Prop where
  linked : Linked c moments z
  objects : moments.filterMap (·.event.object?) = objects
  balanced : Balanced moments
  conforms : ∀ saved, Conforms ⟨c.cached, saved⟩ moments
  replay : ∀ saved, Stack.replay ⟨c.cached, saved⟩ moments = ⟨z.cached, saved⟩

section Tracing

variable {c d z : SettingsCache} {moments others : List Moment} {o : SettingsObject}
  {objects more : List SettingsObject}

theorem IsTrace.nil (c : SettingsCache) : IsTrace c [] c [] :=
  ⟨.nil c, rfl, .nil, fun _ => trivial, fun _ => rfl⟩

theorem IsTrace.append (h : IsTrace c moments d objects) (h' : IsTrace d others z more) :
    IsTrace c (moments ++ others) z (objects ++ more) := by
  refine ⟨h.linked.append h'.linked, ?_, ?_, fun saved => ?_, fun saved => ?_⟩
  · rw [List.filterMap_append, h.objects, h'.objects]
  · exact h.balanced.append h'.balanced
  · rw [conforms_append, h.replay]
    exact ⟨h.conforms saved, h'.conforms saved⟩
  · rw [Stack.replay_append, h.replay, h'.replay]

/-- One moment, at which no block is entered or left. -/
theorem isTrace_singleton {event : Event}
    (hevent : ¬ Moment.Enters ⟨c, event, d⟩ ∧ ¬ Moment.Leaves ⟨c, event, d⟩)
    (hact : ∀ saved, Stack.act ⟨c.cached, saved⟩ event = ⟨d.cached, saved⟩)
    (hproper : Moment.IsProper ⟨c, event, d⟩) :
    IsTrace c [⟨c, event, d⟩] d event.object?.toList := by
  refine ⟨.cons event (.nil d), ?_, .within hevent .nil, fun saved => ?_, hact⟩
  · cases hobject : event.object? <;> simp [hobject]
  · exact ⟨rfl, by rw [hact], hproper, trivial⟩

/-- A block with the moments of its body; what was cached before is cached again. -/
theorem isTrace_block {changes : SettingsChanges} {made : SettingsCache}
    (henter : c.patched changes = .ok (o, made))
    (hbody : IsTrace { made with cached := some o } moments d objects) :
    IsTrace c
      (⟨c, .entered changes o, { made with cached := some o }⟩ ::
        (moments ++ [⟨d, .left, { d with cached := c.cached }⟩]))
      { d with cached := c.cached } (o :: objects) := by
  have hreplay (saved : List (Option SettingsObject)) :
      Stack.replay ⟨some o, saved⟩ moments = ⟨d.cached, saved⟩ := hbody.replay saved
  refine ⟨?_, ?_, ?_, fun saved => ?_, fun saved => ?_⟩
  · exact .cons _ (hbody.linked.append (.cons .left (.nil _)))
  · rw [List.filterMap_cons, List.filterMap_append, hbody.objects]
    exact congrArg (o :: ·) (List.append_nil objects)
  · exact .block ⟨changes, o, rfl⟩ hbody.balanced rfl .nil
  · have hinside : Conforms ⟨some o, c.cached :: saved⟩ moments := hbody.conforms _
    refine ⟨rfl, rfl, patched_eq_ok henter, conforms_append.mpr ⟨hinside, ?_⟩⟩
    rw [Stack.act, hreplay]
    exact ⟨rfl, rfl, trivial, trivial⟩
  · show Stack.replay ⟨some o, c.cached :: saved⟩ (moments ++ _) = _
    rw [Stack.replay_append, hreplay]
    rfl

theorem run_guard (body : List Step) (c : SettingsCache) :
    (run (.guard body) c).1.objects = Answer.objectsOf (runAll body c).1 ∧
      (run (.guard body) c).2.2 = (runAll body c).2.2 := by
  rw [run]
  exact ⟨by rw [Answer.objects], rfl⟩

mutual

/-- The moments of a step are a trace of its run. -/
theorem isTrace_trace : ∀ (step : Step) (c : SettingsCache),
    IsTrace c (trace step c) (run step c).2.2 (run step c).1.objects
  | .get refresh, c => by
      cases hget : c.get refresh with
      | error f =>
          simp only [trace, run, hget, Answer.objects]
          exact .nil c
      | ok result =>
          obtain ⟨o, after⟩ := result
          obtain ⟨hcached, hproper⟩ := get_eq_ok hget
          simp only [trace, run, hget, Answer.objects]
          cases refresh with
          | false =>
              refine isTrace_singleton (by simp [Moment.Enters, Moment.Leaves])
                (fun saved => by rw [hcached]; rfl) ?_
              rcases hproper with ⟨-, hold⟩ | ⟨hbuilt, hnone⟩
              · exact Or.inl hold
              · exact Or.inr ⟨hnone rfl, hbuilt⟩
          | true =>
              refine isTrace_singleton (by simp [Moment.Enters, Moment.Leaves])
                (fun saved => by rw [hcached]; rfl) ?_
              rcases hproper with ⟨hno, -⟩ | ⟨hbuilt, -⟩
              · cases hno
              · exact hbuilt
  | .clear, c => by
      simp only [trace, run, Answer.objects]
      exact isTrace_singleton (by simp [Moment.Enters, Moment.Leaves]) (fun _ => rfl) trivial
  | .setVariable name value, c => by
      cases value <;> simp only [trace, run, Answer.objects] <;>
        exact isTrace_singleton (by simp [Moment.Enters, Moment.Leaves]) (fun _ => rfl) trivial
  | .setFile content, c => by
      simp only [trace, run, Answer.objects]
      exact isTrace_singleton (by simp [Moment.Enters, Moment.Leaves]) (fun _ => rfl) trivial
  | .override changes body, c => by
      cases hpatched : c.patched changes with
      | error f =>
          simp only [trace, run, hpatched, Answer.objects]
          exact .nil c
      | ok result =>
          obtain ⟨o, made⟩ := result
          simp only [trace, run, hpatched, Answer.objects]
          exact isTrace_block hpatched (isTrace_traceAll body _)
  | .guard body, c => by
      obtain ⟨hobjects, hafter⟩ := run_guard body c
      rw [trace, hobjects, hafter]
      exact isTrace_traceAll body c
  | .fail f, c => by
      simp only [trace, run, Answer.objects]
      exact .nil c

/-- The moments of steps are a trace of their run. -/
theorem isTrace_traceAll : ∀ (steps : List Step) (c : SettingsCache),
    IsTrace c (traceAll steps c) (runAll steps c).2.2 (Answer.objectsOf (runAll steps c).1)
  | [], c => by
      simp only [traceAll, runAll, Answer.objectsOf]
      exact .nil c
  | step :: steps, c => by
      have hfirst := isTrace_trace step c
      cases hrun : run step c with
      | mk answer rest =>
          obtain ⟨failure, after⟩ := rest
          rw [hrun] at hfirst
          cases failure with
          | some f =>
              simp only [traceAll, runAll, hrun, Answer.objectsOf, List.append_nil]
              exact hfirst
          | none =>
              simp only [traceAll, runAll, hrun, Answer.objectsOf]
              exact hfirst.append (isTrace_traceAll steps after)

end

end Tracing

section Stacks

variable {s : Stack} {moments inner between : List Moment} {m l g : Moment}
  {saved : List (Option SettingsObject)} {o p : SettingsObject}

theorem Stack.replay_cons (s : Stack) (m : Moment) (moments : List Moment) :
    s.replay (m :: moments) = (s.act m.event).replay moments := rfl

/-- Moments that stay in a block leave the other blocks alone. -/
theorem Stack.saved_act (h : ¬ m.Enters ∧ ¬ m.Leaves) (s : Stack) :
    (s.act m.event).saved = s.saved := by
  obtain ⟨hentry, hleft⟩ := h
  cases hevent : m.event with
  | entered changes o => exact absurd ⟨changes, o, hevent⟩ hentry
  | left => exact absurd hevent hleft
  | _ => rfl

/-- Leaving a block takes what was saved last. -/
theorem Stack.act_left_of_saved {t : Stack} {x : Option SettingsObject} (h : t.saved = x :: saved) :
    t.act .left = ⟨x, saved⟩ := by
  simp [Stack.act, h]

/-- What comes behind whole blocks finds the same blocks open. -/
theorem Balanced.saved_replay (h : Balanced moments) (s : Stack) :
    (s.replay moments).saved = s.saved := by
  induction h generalizing s with
  | nil => rfl
  | within stays _ ih => rw [Stack.replay_cons, ih, Stack.saved_act stays]
  | @block m l inner rest enters body leaves further ihBody ihFurther =>
      obtain ⟨changes, o, henters⟩ := enters
      have hsaved : ((s.act (.entered changes o)).replay inner).saved = s.cached :: s.saved :=
        ihBody _
      rw [Stack.replay_cons, Stack.replay_append, Stack.replay_cons, ihFurther, henters, leaves,
        Stack.act_left_of_saved hsaved]

/-- A whole block leaves the stack as it was when the block was entered. -/
theorem Stack.act_block (henters : m.Enters) (hinner : Balanced inner) (hleaves : l.Leaves)
    (s : Stack) : ((s.act m.event).replay inner).act l.event = s := by
  obtain ⟨changes, o, henters⟩ := henters
  have hsaved : ((s.act (.entered changes o)).replay inner).saved = s.cached :: s.saved :=
    hinner.saved_replay _
  rw [henters, hleaves, Stack.act_left_of_saved hsaved]

/-- Settings that are cached are what a program gets. -/
theorem Moment.IsProper.got_eq (h : m.IsProper) (hgot : m.event = .got p)
    (hcached : m.before.cached = some o) : p = o := by
  rw [Moment.IsProper, hgot] at h
  rcases h with hold | ⟨hnone, -⟩
  · rw [hcached] at hold
    exact (Option.some.inj hold).symm
  · rw [hcached] at hnone
    cases hnone

/-- What is cached stays cached as long as nothing is made anew and nothing is cleared. -/
theorem Undisturbed.replay_eq (h : Undisturbed moments) (hconforms : Conforms s moments)
    (hcached : s.cached = some o) : s.replay moments = s := by
  induction h with
  | nil => rfl
  | got gets _ ih =>
      obtain ⟨p, hgot⟩ := gets
      obtain ⟨hbefore, -, hproper, hfurther⟩ := hconforms
      obtain rfl := hproper.got_eq hgot (hbefore.trans hcached)
      have hsame : s.act (.got p) = s := by rw [Stack.act, ← hcached]
      rw [hgot, hsame] at hfurther
      rw [Stack.replay_cons, hgot, hsame]
      exact ih hfurther
  | changed changes _ ih =>
      obtain ⟨-, -, -, hfurther⟩ := hconforms
      rw [changes] at hfurther
      rw [Stack.replay_cons, changes]
      exact ih hfurther
  | block enters body leaves _ ih =>
      obtain ⟨-, -, -, hconforms⟩ := hconforms
      obtain ⟨-, -, -, -, hfurther⟩ := conforms_append.mp hconforms
      rw [Stack.act_block enters body leaves] at hfurther
      rw [Stack.replay_cons, Stack.replay_append, Stack.replay_cons,
        Stack.act_block enters body leaves]
      exact ih hfurther

/-- A moment behind others, and what the stack is there. -/
theorem conforms_at {before after : List Moment} (h : Conforms s (before ++ m :: after)) :
    m.before.cached = (s.replay before).cached ∧
      m.after.cached = ((s.replay before).act m.event).cached ∧ m.IsProper ∧
      Conforms ((s.replay before).act m.event) after :=
  (conforms_append.mp h).2

end Stacks

/--
Overrides nest and always unwind, in every program and whatever the cache is at its beginning.

The moments of the program follow one another up to the cache that its run leaves, so nothing
happens to the cache between them, and the objects that are handed over at them are those of
the answers of the run. Every block that is entered is left. When a block is left, for whatever
reason, the cache is what it was when the block was entered. The object of a block holds the
changes, and the settings that were cached before, or that are made then if none were, in every
field that is not changed; and it is what the program gets in the block, until it has settings
made anew or clears the cache there. Two times that settings are got with neither of these
between them, nor the beginning or the end of a block, give the same object, whatever is changed
between.
-/
theorem overrides_unwind (steps : List Step) (c : SettingsCache) :
    let moments := traceAll steps c
    Linked c moments (runAll steps c).2.2 ∧
    moments.filterMap (·.event.object?) = Answer.objectsOf (runAll steps c).1 ∧
    Balanced moments ∧
    (∀ before m inner l after, moments = before ++ m :: (inner ++ l :: after) →
      m.Enters → Balanced inner → l.Leaves → l.after.cached = m.before.cached) ∧
    (∀ m ∈ moments, ∀ changes o, m.event = .entered changes o →
      ∃ s, changes.Agree o.settings s ∧
        (m.before.cached.map (·.settings) = some s ∨
          m.before.cached = none ∧ m.before.Builds s)) ∧
    (∀ before m inner g after changes o p, moments = before ++ m :: (inner ++ g :: after) →
      m.event = .entered changes o → Undisturbed inner → g.event = .got p → p = o) ∧
    ∀ before m between g after o p, moments = before ++ m :: (between ++ g :: after) →
      (m.event = .got o ∨ m.event = .refreshed o) →
      (∀ n ∈ between, n.event = .changed ∨ ∃ q, n.event = .got q) →
      g.event = .got p → p = o := by
  intro moments
  have htrace := isTrace_traceAll steps c
  have hconforms : Conforms ⟨c.cached, []⟩ moments := htrace.conforms []
  -- what is cached at a moment is what is got behind undisturbed moments
  have hgets {before inner after : List Moment} {m g : Moment} {o p : SettingsObject}
      (hmoments : moments = before ++ m :: (inner ++ g :: after))
      (hcached : ∀ s : Stack, (s.act m.event).cached = some o) (hinner : Undisturbed inner)
      (hgot : g.event = .got p) : p = o := by
    rw [hmoments] at hconforms
    obtain ⟨-, -, -, hbehind⟩ := conforms_at hconforms
    obtain ⟨hbefore, -, hproper, -⟩ := conforms_at hbehind
    have hcached := hcached (Stack.replay ⟨c.cached, []⟩ before)
    rw [hinner.replay_eq (conforms_append.mp hbehind).1 hcached, hcached] at hbefore
    exact hproper.got_eq hgot hbefore
  refine ⟨htrace.linked, htrace.objects, htrace.balanced, ?_, ?_, ?_, ?_⟩
  · intro before m inner l after hmoments henters hinner hleaves
    rw [hmoments] at hconforms
    obtain ⟨hbefore, -, -, hbehind⟩ := conforms_at hconforms
    obtain ⟨-, hafter, -, -⟩ := conforms_at hbehind
    rw [hafter, Stack.act_block henters hinner hleaves, hbefore]
  · intro m hm changes o hentered
    obtain ⟨before, after, hmoments⟩ := List.append_of_mem hm
    rw [hmoments] at hconforms
    obtain ⟨-, -, hproper, -⟩ := conforms_at hconforms
    rw [Moment.IsProper, hentered] at hproper
    obtain ⟨s, hsettings, hs⟩ := hproper
    exact ⟨s, hsettings ▸ changes.agree_apply s, hs⟩
  · intro before m inner g after changes o p hmoments hentered hinner hgot
    exact hgets hmoments (fun s => by rw [hentered]; rfl) hinner hgot
  · intro before m between g after o p hmoments hmade hbetween hgot
    refine hgets hmoments (fun s => ?_) ?_ hgot
    · rcases hmade with hmade | hmade <;> rw [hmade] <;> rfl
    · clear hmoments
      induction between with
      | nil => exact .nil
      | cons n between ih =>
          have hfurther := ih fun n hn => hbetween n (List.mem_cons_of_mem _ hn)
          rcases hbetween n List.mem_cons_self with hchanged | hgets
          · exact .changed hchanged hfurther
          · exact .got hgets hfurther

end SettingsCache
end NoteTemplates
