import NoteTemplates.Proofs.Choices
import NoteTemplates.Proofs.Escaping
import NoteTemplates.Proofs.Listings
import NoteTemplates.Proofs.QuietOperations
import NoteTemplates.Proofs.Replies
import NoteTemplates.Program

/-!
# The numbered menu

A catalog is shown as a menu: its templates by category, numbered through. The menu is described
apart from how it is made, by `Catalog.IsMenu`: it is a rearrangement of the catalog in which
the categories stand in the order in which they first come up, each with all its templates in
their order, and the numbers count from one. The console shows the lines of the menu, and the
number that is typed at it chooses the template that was shown with it. What a line shows of a
name is told by `entryLine` for every name and screen; it is the name itself if nothing in it
asks for more, see `ShowsEntry`.
-/

namespace NoteTemplates

open Effect

namespace Catalog

/-- A category and its templates with their numbers, as they stand below each other. -/
structure Block where
  category : Text
  entries : List (Nat × Template)
  deriving DecidableEq, Repr

/-- Blocks that are a menu of a catalog, in which templates stand in some order. -/
structure IsMenu (templates ordered : List Template) (blocks : List Block) : Prop where
  perm : ordered.Perm templates
  heads : ∀ c, c ∈ blocks.map (·.category) ↔ c ∈ templates.map (·.category)
  first : (blocks.map (·.category)).Pairwise fun c d =>
    (templates.map (·.category)).idxOf c < (templates.map (·.category)).idxOf d
  members : ∀ block ∈ blocks,
    block.entries.map (·.2) = templates.filter (·.category = block.category)
  numbers : blocks.flatMap (·.entries) = (List.range' 1 ordered.length).zip ordered

section FirstOccurrences

variable {c : Text} {cs : List Text}

theorem mem_firstOccurrences : c ∈ firstOccurrences cs ↔ c ∈ cs := by
  induction cs with
  | nil => rfl
  | cons d cs ih =>
      rw [firstOccurrences, List.mem_cons, List.mem_cons, List.mem_filter, ih]
      by_cases h : c = d
      · simp [h]
      · simp [h]

/-- Each member comes before those that first come up later. -/
theorem pairwise_firstOccurrences (cs : List Text) :
    (firstOccurrences cs).Pairwise fun c d => cs.idxOf c < cs.idxOf d := by
  induction cs with
  | nil => exact .nil
  | cons first cs ih =>
      have hlater {c : Text} (hc : c ≠ first) : (first :: cs).idxOf c = cs.idxOf c + 1 :=
        List.idxOf_cons_ne _ (Ne.symm hc)
      rw [firstOccurrences, List.pairwise_cons]
      constructor
      · intro c hc
        have hne : c ≠ first := by simpa using (List.mem_filter.mp hc).2
        rw [hlater hne, List.idxOf_cons_self]
        exact Nat.succ_pos _
      · refine (ih.filter _).imp_of_mem fun {c d} hc hd hlt => ?_
        have hcne : c ≠ first := by simpa using (List.mem_filter.mp hc).2
        have hdne : d ≠ first := by simpa using (List.mem_filter.mp hd).2
        rw [hlater hcne, hlater hdne]
        exact Nat.succ_lt_succ hlt

theorem nodup_firstOccurrences (cs : List Text) : (firstOccurrences cs).Nodup :=
  (pairwise_firstOccurrences cs).imp fun hlt heq => by simp [heq] at hlt

end FirstOccurrences

section Grouping

variable {templates : List Template}

/--
Taking the members of categories one category after the other rearranges a list, by induction on
the categories: those of the first one are taken out of the list.
-/
theorem flatMap_filter_perm {categories : List Text} (hnodup : categories.Nodup)
    (h : ∀ t ∈ templates, t.category ∈ categories) :
    (categories.flatMap fun c => templates.filter (·.category = c)).Perm templates := by
  induction categories generalizing templates with
  | nil =>
      obtain rfl : templates = [] := List.eq_nil_iff_forall_not_mem.mpr fun t ht => nomatch h t ht
      exact .refl _
  | cons c categories ih =>
      obtain ⟨hc, hcategories⟩ := List.nodup_cons.mp hnodup
      have hrest : ∀ t ∈ templates.filter fun t => !decide (t.category = c),
          t.category ∈ categories := by
        intro t ht
        obtain ⟨ht, hne⟩ := List.mem_filter.mp ht
        exact (List.mem_cons.mp (h t ht)).resolve_left (by simpa using hne)
      have hothers (d : Text) (hd : d ∈ categories) :
          templates.filter (·.category = d) =
            (templates.filter fun t => !decide (t.category = c)).filter (·.category = d) := by
        rw [List.filter_filter]
        refine List.filter_congr fun t _ => ?_
        by_cases htd : t.category = d
        · have hne : d ≠ c := by
            rintro rfl
            exact hc hd
          simp [htd, hne]
        · simp [htd]
      have hflat : (categories.flatMap fun d => templates.filter (·.category = d)) =
          categories.flatMap fun d =>
            (templates.filter fun t => !decide (t.category = c)).filter (·.category = d) :=
        List.flatMap_congr hothers
      rw [List.flatMap_cons, hflat]
      exact ((ih hcategories hrest).append_left _).trans (List.filter_append_perm _ _)

theorem displayed_eq (templates : List Template) :
    displayed templates = (firstOccurrences (templates.map (·.category))).flatMap fun c =>
      templates.filter (·.category = c) := by
  rw [displayed, groups, List.flatMap_map]

theorem displayed_perm (templates : List Template) : (displayed templates).Perm templates := by
  rw [displayed_eq]
  exact flatMap_filter_perm (nodup_firstOccurrences _) fun t ht =>
    mem_firstOccurrences.mpr (List.mem_map_of_mem ht)

/-- Templates with the numbers that follow a given one. -/
def numbered (number : Nat) (templates : List Template) : List (Nat × Template) :=
  (List.range' (number + 1) templates.length).zip templates

/-- Groups as blocks, numbered through from a given number on. -/
def blocksFrom : Nat → List (Text × List Template) → List Block
  | _, [] => []
  | number, (category, members) :: groups =>
    ⟨category, numbered number members⟩ :: blocksFrom (number + members.length) groups

theorem flatMap_entries_blocksFrom (number : Nat) (groups : List (Text × List Template)) :
    (blocksFrom number groups).flatMap (·.entries) = numbered number (groups.flatMap (·.2)) := by
  induction groups generalizing number with
  | nil => rfl
  | cons group groups ih =>
      obtain ⟨category, members⟩ := group
      rw [blocksFrom, List.flatMap_cons, ih, List.flatMap_cons, numbered, numbered, numbered,
        List.length_append, ← List.range'_append_1, List.zip_append]
      · rw [Nat.add_right_comm]
      · simp

theorem map_blocksFrom (number : Nat) (groups : List (Text × List Template)) :
    (blocksFrom number groups).map (fun b => (b.category, b.entries.map (·.2))) = groups := by
  induction groups generalizing number with
  | nil => rfl
  | cons group groups ih =>
      obtain ⟨category, members⟩ := group
      rw [blocksFrom, List.map_cons, ih, numbered, List.map_snd_zip]
      simp

/-- The blocks of a catalog. -/
def blocks (templates : List Template) : List Block :=
  blocksFrom 0 (groups templates)

theorem isMenu_blocks (templates : List Template) :
    IsMenu templates (displayed templates) (blocks templates) := by
  have hmap := map_blocksFrom 0 (groups templates)
  have hheads : (blocks templates).map (·.category) =
      firstOccurrences (templates.map (·.category)) := by
    have hcategories := congrArg (List.map (·.1)) hmap
    rw [List.map_map, groups, List.map_map] at hcategories
    exact hcategories.trans (List.map_id _)
  constructor
  · exact displayed_perm templates
  · intro c
    rw [hheads, mem_firstOccurrences]
  · rw [hheads]
    exact pairwise_firstOccurrences _
  · intro block hblock
    have hmem : (block.category, block.entries.map (·.2)) ∈ groups templates := by
      rw [← hmap]
      exact List.mem_map_of_mem (f := fun b : Block => (b.category, b.entries.map (·.2))) hblock
    obtain ⟨c, -, hc⟩ := List.mem_map.mp hmem
    obtain ⟨rfl, hentries⟩ := Prod.ext_iff.mp hc
    exact hentries.symm
  · exact flatMap_entries_blocksFrom 0 _

end Grouping

end Catalog

namespace Program

open Catalog Console

/-- The line of a category. -/
def headLine (screen : Screen) (category : Text) : Text :=
  screen.layOut ("\n" ++ (Markup.spelled screen (Markup.bare category) ++
    (Markup.Segment.tag ⟨Markup.paired (Markup.solidi category), "/bold"⟩).shown screen)) ++
    Text.newline

/-- What stands before the name in the line of a template. -/
def entryFront (number : Nat) : Text :=
  "  " ++ Text.ofNat number ++ ". "

/-- The line of a template and its number. -/
def entryLine (screen : Screen) (entry : Nat × Template) : Text :=
  screen.layOut (Markup.spelled screen (entryFront entry.1 ++ Markup.doubled entry.2.name)) ++
    Text.newline

/-- The lines of a menu. -/
def menuText (screen : Screen) (blocks : List Block) : Text :=
  blocks.flatMap fun block =>
    headLine screen block.category ++ block.entries.flatMap (entryLine screen)

theorem menuText_cons (screen : Screen) (block : Block) (blocks : List Block) :
    menuText screen (block :: blocks) =
      headLine screen block.category ++
        (block.entries.flatMap (entryLine screen) ++ menuText screen blocks) := by
  rw [menuText, List.flatMap_cons, List.append_assoc]
  rfl

/-- A line with a text as it is, but for tabs. -/
def literalLine (s : Text) : Text :=
  Text.expandTabs s ++ Text.newline

/--
A category is shown as it is: it is kept up to the solidi at its end, of which there is one at
most, and its line fits.
-/
structure ShowsHead (screen : Screen) (category : Text) : Prop where
  kept : Markup.IsKept screen (Markup.bare category)
  solidi : Markup.solidi category ≤ 1
  fits : ∀ line ∈ Text.lines (Text.expandTabs ("\n" ++ category)),
    Text.fits screen.columns line = true

/--
A name is shown as it is behind its number: it is kept there, does not end with a single
solidus, and its line fits.
-/
structure ShowsEntry (screen : Screen) (number : Nat) (name : Text) : Prop where
  kept : Markup.IsKept screen (entryFront number ++ name)
  solidi : Markup.solidi name ≠ 1
  fits : ∀ line ∈ Text.lines (Text.expandTabs (entryFront number ++ name)),
    Text.fits screen.columns line = true

section Lines

variable {screen : Screen}

theorem headLine_eq_literalLine {category : Text} (h : ShowsHead screen category) :
    headLine screen category = literalLine ("\n" ++ category) := by
  have hclose : (Markup.Segment.tag
      ⟨Markup.paired (Markup.solidi category), "/bold"⟩).shown screen =
        List.replicate (Markup.solidi category) '\\' := by
    have hsolidi := h.solidi
    generalize Markup.solidi category = n at hsolidi ⊢
    match n, hsolidi with
    | 0, _ => rfl
    | 1, _ => rfl
  rw [headLine, Markup.spelled_of_isKept h.kept, hclose, Markup.bare_append_solidi,
    Screen.layOut_eq_expandTabs_iff.mpr h.fits, literalLine]

theorem entryLine_eq_literalLine {number : Nat} {t : Template}
    (h : ShowsEntry screen number t.name) :
    entryLine screen (number, t) = literalLine (entryFront number ++ t.name) := by
  rw [entryLine, Markup.doubled_eq_self h.solidi, Markup.spelled_of_isKept h.kept,
    Screen.layOut_eq_expandTabs_iff.mpr h.fits, literalLine]

end Lines

section Printing

variable {around : Surroundings} {w : World} {s shown : Text}

theorem weight_ofNat (n : Nat) : Markup.weight (Text.ofNat n) = 0 := by
  refine Markup.weight_eq_zero_iff.mpr fun c hc => ?_
  have hdigit : c.isDigit = true := Nat.isDigit_of_mem_toDigits (by decide) (by decide) hc
  cases hmarked : Markup.isMarked c with
  | false => rfl
  | true =>
      simp only [Markup.isMarked, Markup.isDropped, Bool.or_eq_true, decide_eq_true_eq] at hmarked
      rcases hmarked with (rfl | rfl) | (((rfl | rfl) | rfl) | rfl) | rfl <;> cases hdigit

/-- Neither a number nor what stands around it asks for anything. -/
theorem isBland_entryFront (number : Nat) : Markup.IsBland (entryFront number) := by
  have hdigits : ∀ c ∈ Text.ofNat number, c.isDigit = true := fun c hc =>
    Nat.isDigit_of_mem_toDigits (by decide) (by decide) hc
  constructor
  · rw [entryFront, Markup.weight_append, Markup.weight_append, weight_ofNat]
    decide
  · have hnone : (Text.ofNat number).countP (· = ':') = 0 := by
      refine List.countP_eq_zero.mpr fun c hc heq => ?_
      rw [of_decide_eq_true heq] at hc
      exact absurd (hdigits ':' hc) (by decide)
    rw [entryFront, List.countP_append, List.countP_append, hnone]
    decide

theorem perform_printLine_ok (h : Markup.plain around.screen s = .ok shown) (w : World) :
    (printLine s).perform around w =
      (.ok (), w.after w.replies (around.screen.layOut shown ++ Text.newline)) := by
  rw [perform_printLine, h]
  rfl

theorem perform_printNumbered (number : Nat) (templates : List Template)
    (around : Surroundings) (w : World) :
    (printNumbered number templates).perform around w =
      (.ok (), w.after w.replies
        ((numbered number templates).flatMap (entryLine around.screen))) := by
  induction templates generalizing number w with
  | nil => rw [numbered, List.zip_nil_right, List.flatMap_nil, World.after, List.append_nil]; rfl
  | cons t templates ih =>
      have hline := Markup.plain_append_escape (isBland_entryFront (number + 1)).unmarked
        around.screen t.name
      have hprint := perform_printLine_ok hline w
      rw [entryFront] at hprint
      rw [printNumbered, perform_bind_ok around w hprint, ih, World.after_after]
      rfl

theorem perform_printGroups (number : Nat) (groups : List (Text × List Template))
    (around : Surroundings) (w : World) :
    (printGroups number groups).perform around w =
      (.ok (), w.after w.replies (menuText around.screen (blocksFrom number groups))) := by
  induction groups generalizing number w with
  | nil => rw [blocksFrom, menuText, List.flatMap_nil, World.after, List.append_nil]; rfl
  | cons group groups ih =>
      obtain ⟨category, members⟩ := group
      have hhead := Markup.plain_heading "\n" "bold" (by decide) (by decide +kernel) (by decide)
        around.screen category
      rw [← List.append_assoc, ← List.append_assoc] at hhead
      have hprint : (printLine ("\n[bold]" ++ Markup.escape category ++ "[/bold]")).perform around
          w = _ := perform_printLine_ok hhead w
      rw [printGroups, perform_bind_ok around w hprint,
        perform_bind_ok around _ (perform_printNumbered number members around _), ih,
        World.after_after, World.after_after]
      rw [blocksFrom, menuText_cons]
      rfl

/-- The catalog is shown as its menu, and answered with in the order of the numbers. -/
theorem perform_printCatalog (templates : List Template) (around : Surroundings) (w : World) :
    (printCatalog templates).perform around w =
      (.ok (displayed templates),
        w.after w.replies (menuText around.screen (blocks templates))) := by
  rw [printCatalog, perform_bind_ok around w (perform_printGroups 0 _ around w)]
  rfl

/-- Warnings can be shown whatever they say. -/
theorem perform_printWarnings (warnings : List Text) (around : Surroundings) (w : World) :
    ∃ complaints, (printWarnings warnings).perform around w = (.ok (), { w with complaints }) := by
  induction warnings generalizing w with
  | nil => exact ⟨w.complaints, rfl⟩
  | cons warning warnings ih =>
      obtain ⟨shown, hshown⟩ : ∃ shown,
          Markup.plain around.screen
            ("[yellow]Warning:[/yellow] " ++ Markup.escape warning) = .ok shown :=
        ⟨_, Markup.plain_warning "Warning:" "yellow" " " (by decide) (by decide)
          (by decide +kernel) (by decide) around.screen warning⟩
      obtain ⟨complaints, hrest⟩ := ih
        { w with complaints := w.complaints ++ (around.screen.layOut shown ++ Text.newline) }
      refine ⟨complaints, ?_⟩
      rw [printWarnings, perform_bind, perform_complainLine, hshown]
      exact hrest

end Printing

section Choosing

variable {around : Surroundings} {w : World} {templates : List Template} {k : Nat}
  {t : Template}

/-- The decimal text of a number between the bounds is heard as that number. -/
theorem hear_ofNat {line : Text} {n : Nat} (hk : 1 ≤ k) (hn : k ≤ n)
    (hlimit : k < 10 ^ Text.digitLimit) (hline : Text.strip line = Text.ofNat k)
    (rest : List Reply) :
    hear (judgeChoice 1 n) (.line line :: rest) = ⟨.ok (some (k : Int)), 0, rest⟩ := by
  have hnumeral := Text.numeral?_ofNat k
  obtain ⟨hne, hdecimal, -⟩ := Text.numeral?_eq_some.mp hnumeral
  have hlength : (Text.ofNat k).length ≤ Text.digitLimit :=
    (Nat.length_toDigits_le_iff (by decide) (by decide)).mpr hlimit
  have htrue : ¬ (Text.strip line).IsFalseNumeral := by
    rw [hline]
    rintro ⟨-, -, ⟨c, hc, hno⟩ | hlong⟩
    · rw [hdecimal c hc] at hno
      cases hno
    · omega
  have hpicks : picks? 1 n line = some (some (k : Int)) := by
    rw [picks?, hline, if_neg hne, hnumeral]
    exact if_pos ⟨by omega, by omega⟩
  rw [hear, judgeChoice_of_not_isFalseNumeral htrue, hpicks]

/-- Who types the number of a template at the menu chooses it. -/
theorem perform_choose {name : Option Text} {line : Text} {rest : List Reply}
    (hname : name.getD [] = []) (hk : 1 ≤ k) (hn : k ≤ (displayed templates).length)
    (hlimit : k < 10 ^ Text.digitLimit)
    (ht : (displayed templates)[k - 1]? = some t) (hreplies : w.replies = .line line :: rest)
    (hline : Text.strip line = Text.ofNat k) (around : Surroundings) :
    (choose templates name).perform around w =
      (.ok (some t), w.after rest (menuText around.screen (blocks templates) ++
        Console.shown around.screen "\nSelect template")) := by
  have hsame : choose templates name = choose templates none := by
    cases name with
    | none => rfl
    | some s =>
        obtain rfl : s = [] := hname
        rfl
  have hfree : Markup.HasNoTags "\nSelect template" := by decide
  have hask : (askChoice "\nSelect template" 1 (displayed templates).length).perform around
      (w.after w.replies (menuText around.screen (blocks templates))) =
      (.ok (some (k : Int)), w.after rest (menuText around.screen (blocks templates) ++
        Console.shown around.screen "\nSelect template")) := by
    have hrun := perform_askChoice hfree 1 (displayed templates).length around
      (w.after w.replies (menuText around.screen (blocks templates)))
    have hheard := hear_ofNat hk hn hlimit hline rest
    rw [← hreplies] at hheard
    dsimp only [World.after] at hrun
    rw [hheard] at hrun
    rw [World.after, hrun]
    simp [rounds, World.after]
  rw [hsame, choose]
  · rw [perform_bind_ok around w (perform_printCatalog templates around w),
      perform_bind_ok around _ hask]
    dsimp only
    rw [Int.toNat_natCast, ht]
    rfl
  · intro _ _ h
    cases h

/-- What follows the choice of a template: its note is written, and that is said. -/
def createFrom (book : Notebook) (t : Template) (openEditor : Bool) : Effect Int := do
  let created ← book.createNote t openEditor false none
  printLine ("[green]Created[/green] " ++ Markup.escape created.toText)
  return 0

/--
Writing a note loads the catalog and shows its warnings, and that answers no question, shows
nothing but complaints and changes nothing; then it goes on with the template that is chosen.
-/
theorem perform_new_of_load {book : Notebook} {warnings : List Text}
    (hload : (book.load.perform around w).1 = .ok (templates, warnings)) (hsome : templates ≠ [])
    (name : Option Text) (openEditor : Bool) :
    ∃ u : World, u.history = w.history ∧ u.replies = w.replies ∧ u.asked = w.asked ∧
      u.printed = w.printed ∧
      ∀ t v, (choose templates name).perform around u = (.ok (some t), v) →
        (new book name openEditor).perform around w =
          (createFrom book t openEditor).perform around v := by
  obtain ⟨u, hrun, htalk, hhistory⟩ := book.calm_load.of_fst_eq_ok hload
  obtain ⟨hreplies, hasked, hprinted, -⟩ : u.replies = w.replies ∧ u.asked = w.asked ∧
      u.printed = w.printed ∧ u.complaints = w.complaints := by
    simpa [World.talk] using htalk
  obtain ⟨complaints, hwarned⟩ := perform_printWarnings warnings around u
  refine ⟨{ u with complaints }, hhistory, hreplies, hasked, hprinted, fun t v hchosen => ?_⟩
  rw [new, perform_bind_ok around w hrun]
  dsimp only
  rw [perform_bind_ok around u hwarned, List.isEmpty_eq_false_iff.mpr hsome]
  exact perform_bind_ok around _ hchosen _

/-- A template of a file that says hi. -/
def greeting (priority : Nat) (category name : Text) : Template :=
  { filename := Filename.assemble priority category name
    priority, category, name, body := "hi" }

/-- A catalog in which the templates of one category stand around another. -/
def interleaved : List Template :=
  [greeting 1 "a" "x", greeting 2 "b" "y", greeting 3 "a" "z"]

/-- A directory with its files, and somebody who types a two. -/
def interleavedWorld : World :=
  { store :=
      { entries := (["t"], .directory) ::
          interleaved.map fun t => (["t", t.filename], .file 0o644 (Utf8.encode t.body)) }
    replies := [.line " 2 "] }

def interleavedBook : Notebook :=
  { settings := { templates := some (Path.ofText "/t") } }

theorem load_interleaved :
    (interleavedBook.load.perform .plain interleavedWorld).1 = .ok (interleaved, []) := by
  have hpath : interleavedBook.settings.templatesPath Surroundings.plain.environment
      Surroundings.plain.directory = .ok (Path.ofText "/t") := by decide +kernel
  have hlist : (Disk.list (Path.ofText "/t").toText).perform .plain interleavedWorld =
      (.ok (interleavedWorld.store.children ["t"]), interleavedWorld) := by decide +kernel
  have hlinks : ∀ entry ∈ interleavedWorld.store.children ["t"], entry.2.isLink = false := by
    decide +kernel
  have hnames : (Catalog.fileNames (interleavedWorld.store.children ["t"])).mergeSort Text.le =
      interleaved.map (·.filename) := by
    have hfiles : Catalog.fileNames (interleavedWorld.store.children ["t"]) =
        interleaved.map (·.filename) := by
      decide +kernel
    rw [hfiles]
    exact List.mergeSort_of_pairwise (by decide +kernel)
  have hread : (Catalog.readTemplates (Path.ofText "/t").toText
      (interleaved.map (·.filename))).perform .plain interleavedWorld =
      (.ok (interleaved, []), interleavedWorld) := by decide +kernel
  exact Catalog.load_of_files hpath hlist hlinks hnames hread (by decide +kernel)

end Choosing

end Program

end NoteTemplates
