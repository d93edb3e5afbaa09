import SchemaConcord.Proofs.Drift.Baseline
import SchemaConcord.Proofs.Files.Resume

/-!
# Savings that break off

A saving may stop in any of its steps and between any two. It then leaves the outer ones of the directories it was to
make, or a first part of the text in the temporary file. Whatever it leaves, the baseline is the old one or the new
one, and a later saving ends as if there had been none before (`load_interrupted`). The place of the baseline has to
be in reach: a path that steps out of a missing directory comes to name a file when that directory is made
(`load_interrupted_detour`).
-/

namespace SchemaConcord

open FileTree

/-! ## Steps that stop -/

/-- What a step may leave of its work undone. Clearing a file and renaming one are not done in part. -/
inductive FileStep.Partly (t : FileTree) : FileStep → FileTree → Prop
  | outer {p q : Path} {u : FileTree} : q.root = p.root → q.parts <+: p.parts → t.makeDirectories q = .ok u →
      Partly t (.directories p) u
  | head {p : Path} {s rest : String} {u : FileTree} : t.append p s = .ok u → Partly t (.append p (s ++ rest)) u

/-- The trees in which a run of steps may stop. -/
inductive Stops : List FileStep → FileTree → FileTree → Prop
  | between (steps : List FileStep) (t : FileTree) : Stops steps t t
  | within {step : FileStep} {rest : List FileStep} {t u : FileTree} : step.Partly t u → Stops (step :: rest) t u
  | later {step : FileStep} {rest : List FileStep} {t u v : FileTree} : step.run t = .ok u → Stops rest u v →
      Stops (step :: rest) t v

theorem stops_runSteps (steps : List FileStep) (t : FileTree) : Stops steps t (runSteps steps t).1 := by
  induction steps generalizing t with
  | nil => exact .between [] t
  | cons step rest ih =>
    unfold runSteps
    cases h : step.run t with
    | error f => exact .between _ t
    | ok u => exact .later h (ih u)

def Entry.content? : Entry → Option Content
  | .file c _ => some c
  | .directory _ => none

/-- The same files with the same content in the same directories; times are left out. -/
structure FileTree.Alike (t u : FileTree) : Prop where
  home : u.home = t.home
  entry : ∀ l, (u.entry? l).map Entry.content? = (t.entry? l).map Entry.content?

namespace BaselineFile

variable {b : BaselineFile} {s : Snapshot} {t t' u v w : FileTree} {text part : String} {chunks : List String}

/-- The steps of a saving that writes its text in the given parts. A path without a name stops it at the first. -/
def stepsIn (b : BaselineFile) (chunks : List String) : List FileStep :=
  if b.path.name.isEmpty then [.directories b.path.parent] else b.saveSteps chunks

/-- What a saving may leave when it stops, wherever that is and in whatever parts it writes. -/
def Interrupted (b : BaselineFile) (s : Snapshot) (t u : FileTree) : Prop :=
  ∃ chunks, String.join chunks = Json.indented s.toDatum ∧ Stops (b.stepsIn chunks) t u

/-- A saving that comes to its end, or to a fault, stops there. -/
theorem interrupted_save (b : BaselineFile) (s : Snapshot) (t : FileTree) : b.Interrupted s t (b.save s t).1 := by
  refine ⟨[Json.indented s.toDatum], by simp [String.join_cons], ?_⟩
  unfold stepsIn save
  by_cases hname : b.path.name.isEmpty
  · rw [if_pos hname, if_pos hname]
    cases h : t.makeDirectories b.path.parent with
    | error f => exact .between _ t
    | ok u => exact .later h (.between _ u)
  · rw [if_neg hname, if_neg hname]
    exact stops_runSteps _ t

/-! ## Where a saving stops -/

/-- From the draft on, a saving stops with a draft or has replaced the baseline. -/
theorem Drafted.stops (h : b.Drafted t text u)
    (hstops : Stops (chunks.map (.append b.temporary) ++ [.rename b.temporary b.path]) u v) :
    (∃ part, b.Drafted t part v) ∨ b.Replaced t (text ++ String.join chunks) v := by
  induction chunks generalizing u text with
  | nil =>
    cases hstops with
    | between => exact .inl ⟨text, h⟩
    | within hpartly => cases hpartly
    | later hrun hrest =>
      cases hrest
      rw [String.join_nil, String.append_empty]
      exact .inr (h.rename hrun)
  | cons chunk chunks ih =>
    cases hstops with
    | between => exact .inl ⟨text, h⟩
    | within hpartly =>
      cases hpartly with
      | head happend => exact .inl ⟨_, h.append happend⟩
    | later hrun hrest =>
      rw [String.join_cons, ← String.append_assoc]
      exact ih (h.append hrun) hrest

/-- Directories were made, perhaps not all; or they all were, and a draft is there or the baseline replaced. -/
theorem interrupted_cases (h : b.Interrupted s t v) :
    v = t ∨ (∃ q : Path, q.root = b.path.parent.root ∧ q.parts <+: b.path.parent.parts ∧ t.makeDirectories q = .ok v) ∨
      ∃ u, t.makeDirectories b.path.parent = .ok u ∧
        ((∃ part, b.Drafted u part v) ∨ b.Replaced u (Json.indented s.toDatum) v) := by
  obtain ⟨chunks, hchunks, hstops⟩ := h
  unfold stepsIn saveSteps at hstops
  split at hstops
  all_goals
    cases hstops with
    | between => exact .inl rfl
    | within hpartly =>
      cases hpartly with
      | outer hroot hparts hq => exact .inr (.inl ⟨_, hroot, hparts, hq⟩)
    | @later _ _ _ u _ hu hrest => ?_
  · cases hrest
    exact .inr (.inl ⟨_, rfl, List.prefix_rfl, hu⟩)
  · cases hrest with
    | between => exact .inr (.inl ⟨_, rfl, List.prefix_rfl, hu⟩)
    | within hpartly => cases hpartly
    | later hclear hrest =>
      refine .inr (.inr ⟨u, hu, ?_⟩)
      have hcases := (drafted_clear hclear).stops hrest
      rwa [String.empty_append, hchunks] at hcases

/-! ## What is loaded -/

/-- A file in the place that the path names is reached by the path: it does not step out of a missing directory. -/
def Leads (b : BaselineFile) (t : FileTree) : Prop := b.exist t = false → t.fileAt? (t.place b.path) = none

theorem load_of_untouched {made free : Location → Prop} (h : Alters made free t u) (hmade : ¬ made (t.place b.path))
    (hfree : ¬ free (t.place b.path)) (hleads : b.Leads t) :
    b.Leads u ∧ ∀ now, b.load now u = b.load now t := by
  have hkept := h.fileAt? hmade hfree
  cases hexist : b.exist t with
  | true =>
    obtain ⟨hexist', htext⟩ := isFile_of_alters h hfree hexist
    have hexist' : b.exist u = true := hexist'
    refine ⟨fun hnone => (nomatch hexist'.symm.trans hnone), fun now => ?_⟩
    unfold load readDocument
    rw [hexist, hexist', htext]
  | false =>
    have hnone : u.fileAt? (u.place b.path) = none := by
      rw [h.place, hkept]
      exact hleads hexist
    have hexist' : b.exist u = false := by
      refine Bool.eq_false_iff.mpr fun hfile => ?_
      obtain ⟨c, n, _, he⟩ := entry_of_isFile hfile
      cases (fileAt?_eq_some.mpr ⟨he, rfl⟩).symm.trans hnone
    refine ⟨fun _ => hnone, fun now => ?_⟩
    unfold load
    rw [hexist, hexist']
    rfl

theorem exist_of_load {now : Moment} (h : b.load now t = .ok (some s)) : b.exist t = true := by
  unfold load at h
  split at h
  · assumption
  · cases h

/-- The baseline stays as it is until it is replaced. -/
theorem load_of_interrupted (h : b.Interrupted s t v) (hs : s.capturedAt.WellFormed) (hleads : b.Leads t) :
    b.Leads v ∧ ((∀ now, b.load now v = b.load now t) ∨ ∀ now, b.load now v = .ok (some s)) := by
  have hdirectories : ∀ {u}, AddsDirectories t u → b.Leads u ∧ ∀ now, b.load now u = b.load now t :=
    fun ha => load_of_untouched ha id id hleads
  rcases interrupted_cases h with rfl | ⟨q, _, _, hq⟩ | ⟨u, hu, ⟨part, hdraft⟩ | hreplaced⟩
  · exact ⟨hleads, .inl fun _ => rfl⟩
  · exact (hdirectories (makeDirectories_ok hq).1).imp_right .inl
  · obtain ⟨hleads', hload⟩ := hdirectories (makeDirectories_ok hu).1
    obtain ⟨hleads'', hload'⟩ := load_of_untouched hdraft.alters id (b.place_temporary_ne u).symm hleads'
    exact ⟨hleads'', .inl fun now => (hload' now).trans (hload now)⟩
  · obtain ⟨n, htarget⟩ := hreplaced.target
    have hplace : v.place b.path = u.place b.path := place_of_home hreplaced.home _
    have hreached := hreplaced.reached
    rw [← hplace] at htarget hreached
    have hload := load_of_entry hreached htarget hs
    refine ⟨fun hnone => ?_, .inr hload⟩
    rw [exist_of_load (hload ⟨1, 1, 1, 0, 0, 0, 0, none⟩)] at hnone
    cases hnone

/-! ## Saving afterwards -/

/-- Nothing was changed but what a saving touches, and no directory stands there. -/
structure Agrees (b : BaselineFile) (t u : FileTree) : Prop where
  home : u.home = t.home
  entry : ∀ l, ¬ b.Touches t l → u.entry? l = t.entry? l
  free : ∀ l, b.Touches t l → (u.entry? l).any Entry.isDirectory = false

theorem Ready.agrees_self (h : b.Ready t) : b.Agrees t t := ⟨rfl, fun _ _ => rfl, h.free⟩

theorem Agrees.trans (h : b.Agrees t u) (h' : b.Agrees u v) : b.Agrees t v := by
  refine ⟨h'.home.trans h.home, fun l hl => ?_, fun l hl => h'.free l ((touches_of_home h.home).mpr hl)⟩
  rw [h'.entry l fun hu => hl ((touches_of_home h.home).mp hu), h.entry l hl]

theorem Ready.alters (hready : b.Ready t) (h : b.Agrees t u) : Alters (fun _ => False) (b.Touches t) t u :=
  .of_entry h.home h.entry hready.free

theorem Ready.agrees (hready : b.Ready t) (h : b.Agrees t u) : b.Ready u := by
  obtain ⟨l, n, hl, hd⟩ := hready.directory
  have ha := hready.alters h
  exact ⟨hready.named, ⟨l, n, ha.locate hl, ha.directory hd⟩,
    fun m hm => h.free m ((touches_of_home h.home).mp hm)⟩

theorem Ready.drafted (hready : b.Ready t) (h : b.Drafted t text u) : b.Agrees t u := by
  refine ⟨h.home, fun l hl => h.entry l fun e => hl (.inl e), ?_⟩
  rintro l (rfl | rfl)
  · obtain ⟨n, hdraft⟩ := h.draft
    rw [hdraft]
    rfl
  · rw [h.entry _ (b.place_temporary_ne t).symm]
    exact hready.free _ (.inr rfl)

theorem Replaced.agrees (h : b.Replaced t text u) : b.Agrees t u := by
  refine ⟨h.home, h.entry, ?_⟩
  rintro l (rfl | rfl)
  · rw [h.draft]
    rfl
  · obtain ⟨n, htarget⟩ := h.target
    rw [htarget]
    rfl

/-- After a saving that stopped, the directories end up as they would have, and all else stands but what a saving
touches. -/
theorem agrees_of_interrupted (h : b.Interrupted s t v) (hu : t.makeDirectories b.path.parent = .ok u)
    (hready : b.Ready u) : ∃ w, v.makeDirectories b.path.parent = .ok w ∧ b.Agrees u w := by
  have hstays : b.Agrees u v → v.makeDirectories b.path.parent = .ok v := by
    intro hagrees
    obtain ⟨l, n, hl, hd⟩ := (hready.agrees hagrees).directory
    exact makeDirectories_eq hl hd
  rcases interrupted_cases h with rfl | ⟨q, hroot, hparts, hq⟩ | ⟨u', hu', hcases⟩
  · exact ⟨u, hu, hready.agrees_self⟩
  · exact ⟨u, makeDirectories_again hroot hparts hq hu, hready.agrees_self⟩
  · cases hu.symm.trans hu'
    have hagrees : b.Agrees u v := by
      rcases hcases with ⟨part, hdraft⟩ | hreplaced
      · exact hready.drafted hdraft
      · exact hreplaced.agrees
    exact ⟨v, hstays hagrees, hagrees⟩

theorem Replaced.alike (h : b.Replaced t text t') (hagrees : b.Agrees t u) (h' : b.Replaced u text v) :
    t'.Alike v := by
  have hplace : ∀ p, u.place p = t.place p := place_of_home hagrees.home
  refine ⟨h'.home.trans (hagrees.home.trans h.home.symm), fun l => ?_⟩
  by_cases hl : b.Touches t l
  · rcases hl with rfl | rfl
    · have hdraft := h'.draft
      rw [hplace] at hdraft
      rw [h.draft, hdraft]
    · obtain ⟨n, htarget⟩ := h.target
      obtain ⟨m, htarget'⟩ := h'.target
      rw [hplace] at htarget'
      rw [htarget, htarget']
      rfl
  · rw [h'.entry l fun hu => hl ((touches_of_home hagrees.home).mp hu), hagrees.entry l hl, h.entry l hl]

/-! ## Any number of savings that stop -/

inductive Interruptions (b : BaselineFile) : List Snapshot → FileTree → FileTree → Prop
  | none (t : FileTree) : Interruptions b [] t t
  | more {s : Snapshot} {rest : List Snapshot} {t u v : FileTree} : b.Interrupted s t u → Interruptions b rest u v →
      Interruptions b (s :: rest) t v

variable {schemas : List Snapshot}

theorem Interruptions.load (h : b.Interruptions schemas t u) (hs : ∀ s ∈ schemas, s.capturedAt.WellFormed)
    (hleads : b.Leads t) :
    (∀ now, b.load now u = b.load now t) ∨ ∃ s ∈ schemas, ∀ now, b.load now u = .ok (some s) := by
  induction h with
  | none t => exact .inl fun _ => rfl
  | @more s rest t u v hfirst hrest ih =>
    obtain ⟨hleads', hload⟩ := load_of_interrupted hfirst (hs s (List.mem_cons_self ..)) hleads
    rcases ih (fun s' hs' => hs s' (List.mem_cons_of_mem s hs')) hleads' with hsame | ⟨s', hs', hnew⟩
    · rcases hload with hold | hnew
      · exact .inl fun now => (hsame now).trans (hold now)
      · exact .inr ⟨s, List.mem_cons_self .., fun now => (hsame now).trans (hnew now)⟩
    · exact .inr ⟨s', List.mem_cons_of_mem s hs', hnew⟩

theorem Interruptions.agrees (h : b.Interruptions schemas t v) (hu : t.makeDirectories b.path.parent = .ok u)
    (hready : b.Ready u) : ∃ w, v.makeDirectories b.path.parent = .ok w ∧ b.Agrees u w := by
  induction h generalizing u with
  | none t => exact ⟨u, hu, hready.agrees_self⟩
  | more hfirst _ ih =>
    obtain ⟨w, hw, hagrees⟩ := agrees_of_interrupted hfirst hu hready
    obtain ⟨x, hx, hagrees'⟩ := ih hw (hready.agrees hagrees)
    exact ⟨x, hx, hagrees.trans hagrees'⟩

/-- After any number of savings that stopped anywhere, the baseline loads as before them or as the schema of one of
them, and a saving that goes well without them goes well after them, with the same files and the baseline that it
saved. -/
theorem load_interrupted (h : b.Interruptions schemas t u) (hs : ∀ s ∈ schemas, s.capturedAt.WellFormed)
    (hleads : b.Leads t) :
    ((∀ now, b.load now u = b.load now t) ∨ ∃ s ∈ schemas, ∀ now, b.load now u = .ok (some s)) ∧
      ∀ s t', s.capturedAt.WellFormed → b.save s t = (t', .ok ()) →
        ∃ u', b.save s u = (u', .ok ()) ∧ t'.Alike u' ∧ ∀ now, b.load now u' = .ok (some s) := by
  refine ⟨h.load hs hleads, fun s t' hclock hsave => ?_⟩
  obtain ⟨v, hv, hready, hreplaced⟩ := ready_of_save hsave
  obtain ⟨w, hw, hagrees⟩ := h.agrees hv hready
  obtain ⟨u', hsave', hreplaced'⟩ := exists_save_of_ready hw (hready.agrees hagrees) s
  exact ⟨u', hsave', hreplaced.alike hagrees hreplaced', load_of_save hsave' hclock⟩

/-! ## A saving that stops amid its text -/

def schemaFile : BaselineFile := ⟨⟨"", ["schema", "schema.json"]⟩⟩

/-- A baseline, and beside it what a saving left that stopped earlier. -/
def savedProject : FileTree where
  entries := [
    (["project"], .directory 0),
    (["project", "schema"], .directory 0),
    (["project", "schema", "schema.json"], .file (.text (Json.indented abroad.toDatum)) 0),
    (["project", "schema", ".schema.json.tmp"], .file (.text "[") 1)]
  home := ["project"]
  clock := 2

def renewed : Snapshot := { abroad with version := "2", tables := [] }

/-- The project when the saving of the renewed schema has written a part of its text. -/
def stoppedProject (part : String) : FileTree where
  entries := [
    (["project"], .directory 0),
    (["project", "schema"], .directory 0),
    (["project", "schema", "schema.json"], .file (.text (Json.indented abroad.toDatum)) 0),
    (["project", "schema", ".schema.json.tmp"], .file (.text ("" ++ part)) 3)]
  home := ["project"]
  clock := 4

theorem interrupted_renewed (part rest : String) (h : part ++ rest = Json.indented renewed.toDatum) :
    schemaFile.Interrupted renewed savedProject (stoppedProject part) := by
  refine ⟨[part ++ rest], by rw [← h]; simp [String.join_cons], ?_⟩
  have hdirectories : savedProject.makeDirectories schemaFile.path.parent = .ok savedProject :=
    makeDirectories_eq (l := ["project", "schema"]) rfl rfl
  have hclear : savedProject.write schemaFile.temporary (.text "") = .ok (savedProject.put
      ["project", "schema", ".schema.json.tmp"] (.file (.text ""))) := write_eq rfl rfl _
  exact .later hdirectories (.later hclear (.within (.head rfl)))

theorem load_interrupted_abroad :
    schemaFile.Interruptions [renewed] savedProject
        (stoppedProject (String.ofList ((Json.indented renewed.toDatum).toList.take 20))) ∧
      renewed.capturedAt.WellFormed ∧ schemaFile.Leads savedProject ∧
      ((∀ now, schemaFile.load now (stoppedProject (String.ofList ((Json.indented renewed.toDatum).toList.take 20))) =
          .ok (some abroad)) ∨
        ∀ now, schemaFile.load now (stoppedProject (String.ofList ((Json.indented renewed.toDatum).toList.take 20))) =
          .ok (some renewed)) ∧
      ∃ t' u', schemaFile.save renewed savedProject = (t', .ok ()) ∧
        schemaFile.save renewed (stoppedProject (String.ofList ((Json.indented renewed.toDatum).toList.take 20))) =
          (u', .ok ()) ∧ t'.Alike u' ∧ ∀ now, schemaFile.load now u' = .ok (some renewed) := by
  have hclock : ∀ s : Snapshot, s.capturedAt = abroad.capturedAt → s.capturedAt.WellFormed := by
    intro s hs
    rw [hs]
    exact ⟨rfl, by decide⟩
  have hstop : schemaFile.Interruptions [renewed] savedProject
      (stoppedProject (String.ofList ((Json.indented renewed.toDatum).toList.take 20))) := by
    refine .more (interrupted_renewed _ (String.ofList ((Json.indented renewed.toDatum).toList.drop 20)) ?_) (.none _)
    rw [← String.ofList_append, List.take_append_drop, String.ofList_toList]
  have hleads : schemaFile.Leads savedProject := fun hnone => nomatch hnone
  have hbefore : ∀ now, schemaFile.load now savedProject = .ok (some abroad) :=
    load_of_entry (n := 0) rfl rfl (hclock abroad rfl)
  have hready : schemaFile.Ready savedProject := by
    refine ⟨by decide, ⟨["project", "schema"], _, rfl, rfl⟩, ?_⟩
    rintro m (rfl | rfl) <;> rfl
  obtain ⟨t', hsave⟩ := hready.exists_save renewed
  obtain ⟨hload, hlater⟩ := load_interrupted hstop
    (fun s hs => by cases List.mem_singleton.mp hs; exact hclock renewed rfl) hleads
  obtain ⟨u', hsave', halike, hload'⟩ := hlater renewed t' (hclock renewed rfl) hsave
  refine ⟨hstop, hclock renewed rfl, hleads, ?_, t', u', hsave, hsave', halike, hload'⟩
  rcases hload with hold | ⟨s, hs, hnew⟩
  · exact .inl fun now => (hold now).trans (hbefore now)
  · cases List.mem_singleton.mp hs
    exact .inr hnew

/-! ## A path that steps out of a missing directory -/

def detourFile : BaselineFile := ⟨⟨"", ["new", "..", "schema.json"]⟩⟩

/-- There is no way to the baseline before `new` is made, and a directory stands where the temporary file would be. -/
def detourProject : FileTree where
  entries := [
    (["project"], .directory 0),
    (["project", "schema.json"], .file (.text "[") 0),
    (["project", ".schema.json.tmp"], .directory 0)]
  home := ["project"]
  clock := 1

/-- No baseline is found, the saving stops after it has made a directory, and then loading fails. -/
theorem load_interrupted_detour : renewed.capturedAt.WellFormed ∧
    (∀ now, detourFile.load now detourProject = .ok none) ∧
    detourFile.Interrupted renewed detourProject (detourFile.save renewed detourProject).1 ∧
    ∀ now, detourFile.load now (detourFile.save renewed detourProject).1 =
      .error (.model ⟨"DatabaseSchema", [⟨[], .jsonInvalid⟩]⟩) := by
  refine ⟨⟨rfl, by decide⟩, fun _ => rfl, interrupted_save _ _ _, fun now => ?_⟩
  rfl

end BaselineFile

end SchemaConcord
