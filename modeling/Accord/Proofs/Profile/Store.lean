import Accord.Proofs.Files.Path
import Accord.Proofs.Files.Tree
import Accord.Proofs.Profile.Layers

/-!
# What stored profiles come to

After any calls that store profiles, the file of a project holds what was saved there, and the file
of the user holds what was saved there, by project (`Files.Stores`).  One call keeps this up
(`Stores.afterSaving`), so any number of calls does (`stores_afterSavings`), and the profiles of a
project are those two layers, one laid over the other (`profiles_after_savings`).

This takes paths that keep the files apart (`Files.Apart`): where a directory stands in place of a
file nothing can be read, and a path that goes up through a directory that is not there yet leads to
a file that is not found when it is read, but is when it is written.
-/

namespace Accord

namespace Files

variable {start f f' : Files} {globalFile path project : String} {x y : Location}
  {history : List Saving} {s : Saving}

/-! ## Calls -/

/-- The files after a call that succeeds. -/
def afterSaving (f : Files) (globalFile : String) (s : Saving) : Except Error Files :=
  match f.saveProfile s.project globalFile s.name s.profile s.scope with
  | (.ok _, f') => .ok f'
  | (.error e, _) => .error e

/-- The files after calls that all succeed. -/
def afterSavings (f : Files) (globalFile : String) (l : List Saving) : Except Error Files :=
  l.foldlM (fun f s => f.afterSaving globalFile s) f

/-- Both paths lead to the same place. -/
def sameFile (f : Files) (p q : String) : Bool :=
  match f.target p, f.target q with
  | .ok x, .ok y => decide (x = y)
  | _, _ => false

/-- What was saved in the file of a project. -/
def localSavings (f : Files) (project : String) (history : List Saving) : List Saving :=
  history.filter fun s =>
    s.scope = .project && f.sameFile (localPath s.project) (localPath project)

/-- What was saved in the file of the user. -/
def userSavings (history : List Saving) : List Saving :=
  history.filter fun s => s.scope = .user

/-- What was saved for a project in the file of the user. -/
def globalSavings (project : String) (history : List Saving) : List Saving :=
  (userSavings history).filter fun s => s.project = project

/-- The files of profiles stand apart: no path of a project goes up, no local path leads to the file
of the user, and no directory stands in place of a file that is read. -/
structure Apart (f : Files) (globalFile : String) (history : List Saving) (project : String) :
    Prop where
  forward : ∀ p ∈ project :: history.map Saving.project, ".." ∉ Path.parts p
  distinct : ∀ p ∈ project :: history.map Saving.project,
    f.sameFile (localPath p) globalFile = false
  localFree : f.find (localPath project) ≠ .ok .directory
  globalFree : f.find globalFile ≠ .ok .directory

/-- There are directories, but no files. -/
structure Bare (f : Files) : Prop extends f.Connected where
  noFile : ∀ x content, f.entry? x ≠ some (.file content)

theorem sameFile_iff {p q : String} :
    f.sameFile p q = true ↔ ∃ x, f.target p = .ok x ∧ f.target q = .ok x := by
  unfold sameFile
  cases f.target p with
  | error e => simp
  | ok x =>
    cases f.target q with
    | error e => simp
    | ok y => simp [eq_comm]

theorem sameFile_eq (h : f'.directory = f.directory) (p q : String) :
    f'.sameFile p q = f.sameFile p q := by
  unfold sameFile
  rw [target_eq h, target_eq h]

/-! ## Reading files -/

theorem find_ok {e : Entry} :
    f.find path = .ok e ↔ ∃ x, f.locate path = .ok x ∧ f.entry? x = some e := by
  unfold find
  rw [Except.bind_ok]
  refine exists_congr fun x => and_congr_right fun _ => ?_
  cases f.entry? x <;> simp [pure, Except.pure]

variable {α : Type} {item : Decoder α} {first : α}

theorem load_of_none (h : ∀ x, f.locate path = .ok x → f.entry? x = none) :
    f.load item first path = .ok first := by
  have hcontains : f.contains path = false := by
    unfold contains
    cases hfind : f.find path with
    | error p => rfl
    | ok e =>
      obtain ⟨x, hx, hentry⟩ := find_ok.1 hfind
      rw [h x hx] at hentry
      cases hentry
  unfold load
  rw [hcontains]
  rfl

theorem load_of_written {v : Json} {a : α} (hx : f.locate path = .ok x)
    (hentry : f.entry? x = some (.file (some v.pretty))) (hplain : v.Plain)
    (hrecovers : Decoder.Recovers item 5 v a) : f.load item first path = .ok a := by
  have hfind : f.find path = .ok (.file (some v.pretty)) := find_ok.2 ⟨x, hx, hentry⟩
  have hcontains : f.contains path = true := by
    unfold contains
    rw [hfind]
  have htext : f.text path = .ok v.pretty := by
    unfold text readText
    rw [hfind]
    rfl
  have hread : Decoder.ofText item v.pretty = .ok a :=
    (Decoder.ofText_pretty item hplain).trans (hrecovers _ (show 5 < 128 by decide))
  unfold load
  simp only [hcontains, htext, hread, bind, Except.bind]
  rfl

theorem load_of_directory (h : f.find path = .ok .directory) :
    f.load item first path =
      .error (.config (.cannotRead path FileProblem.isDirectory.message)) := by
  have hcontains : f.contains path = true := by
    unfold contains
    rw [h]
  have htext : f.text path =
      .error (.config (.cannotRead path FileProblem.isDirectory.message)) := by
    unfold text readText
    rw [h]
    rfl
  unfold load
  simp only [hcontains, htext, bind, Except.bind]
  rfl

/-- Profiles are read only if no directory stands in place of a file. -/
theorem free_of_loadProfiles {profiles : Profiles}
    (h : f.loadProfiles project globalFile = .ok profiles) :
    f.find (localPath project) ≠ .ok .directory ∧ f.find globalFile ≠ .ok .directory := by
  obtain ⟨registry, hglobal, h⟩ := Except.bind_ok.1 h
  obtain ⟨mine, hlocal, -⟩ := Except.bind_ok.1 h
  constructor
  · intro hdirectory
    rw [loadLocal, load_of_directory hdirectory] at hlocal
    cases hlocal
  · intro hdirectory
    rw [loadGlobal, load_of_directory hdirectory] at hglobal
    cases hglobal

/-! ## What the files hold -/

/-- What was saved at a place, as the file of a project. -/
def savingsAt (f : Files) (x : Location) (history : List Saving) : List Saving :=
  history.filter fun s => s.scope = .project && decide (f.target (localPath s.project) = .ok x)

/-- A file with a value, if anything was saved. -/
def entryOf (l : List Saving) (v : Json) : Option Entry :=
  if l.isEmpty then none else some (.file (some v.pretty))

/-- The files hold what was saved, each file what was saved in it, and there are no others. -/
structure Stores (f : Files) (globalFile : String) (history : List Saving) : Prop where
  connected : f.Connected
  atPlace : ∀ x, f.target globalFile ≠ .ok x → f.entry? x ≠ some .directory →
    f.entry? x = entryOf (f.savingsAt x history) (Profiles.saved (f.savingsAt x history)).toJson
  atUser : ∀ x, f.target globalFile = .ok x → f.entry? x ≠ some .directory →
    f.entry? x = entryOf (userSavings history) (Registry.saved (userSavings history)).toJson
  located : userSavings history ≠ [] → ∃ x, f.locate globalFile = .ok x

theorem Bare.stores (h : f.Bare) (globalFile : String) : f.Stores globalFile [] := by
  have hnone : ∀ x, f.entry? x ≠ some .directory → f.entry? x = none := by
    intro x hx
    cases hentry : f.entry? x with
    | none => rfl
    | some e =>
      cases e with
      | directory => exact absurd hentry hx
      | file content => exact absurd hentry (h.noFile x content)
  exact ⟨h.toConnected, fun x _ hx => hnone x hx, fun x _ hx => hnone x hx, fun h => absurd rfl h⟩

theorem savingsAt_eq (h : f'.directory = f.directory) (x : Location) (history : List Saving) :
    f'.savingsAt x history = f.savingsAt x history := by
  unfold savingsAt
  simp only [target_eq h]

/-- The file of a project holds what was saved at its place. -/
theorem localSavings_of_target (h : f.target (localPath project) = .ok x) :
    f.localSavings project history = f.savingsAt x history := by
  refine List.filter_congr fun s _ => congrArg (decide (s.scope = .project) && ·) ?_
  rw [Bool.eq_iff_iff, sameFile_iff, decide_eq_true_iff, h]
  constructor
  · rintro ⟨y, hy, hyx⟩
    rw [hy, Except.ok.inj hyx]
  · exact fun hs => ⟨x, hs, rfl⟩

theorem localSavings_of_no_target {e : FileProblem}
    (h : f.target (localPath project) = .error e) : f.localSavings project history = [] := by
  refine List.filter_eq_nil_iff.2 fun s _ hs => ?_
  obtain ⟨x, -, hx⟩ := sameFile_iff.1 (Bool.and_eq_true_iff.1 hs).2
  rw [h] at hx
  cases hx

/-- The ports of everything that was saved are numbers of 16 bits. -/
def PortsFit (history : List Saving) : Prop :=
  ∀ s ∈ history, s.profile.config.PortFits

theorem PortsFit.filter (h : PortsFit history) (p : Saving → Bool) : PortsFit (history.filter p) :=
  fun s hs => h s (List.mem_filter.1 hs).1

namespace Stores

variable (h : f.Stores globalFile history) (hports : PortsFit history)

include h hports

/-- What is read from the file of a project. -/
theorem loadLocal (hforward : ".." ∉ Path.parts project)
    (hdistinct : f.sameFile (localPath project) globalFile = false)
    (hfree : f.find (localPath project) ≠ .ok .directory) :
    f.loadLocal (localPath project) = .ok (Profiles.saved (f.localSavings project history)) := by
  cases htarget : f.target (localPath project) with
  | error e =>
    rw [localSavings_of_no_target htarget]
    refine load_of_none fun x hx => ?_
    rw [target_of_locate hx] at htarget
    cases htarget
  | ok x =>
    have hother : f.target globalFile ≠ .ok x := fun hglobal =>
      Bool.false_ne_true (hdistinct.symm.trans (sameFile_iff.2 ⟨x, htarget, hglobal⟩))
    obtain ⟨parts, hparts⟩ := parts_localPath project
    have hlocate : f.entry? x ≠ none → f.locate (localPath project) = .ok x :=
      h.connected.locate_of_target hparts (by decide) (up_not_mem_localPath hforward) htarget
    -- A directory at the place would be found, so there is a file or nothing.
    have hdirectory : f.entry? x ≠ some .directory := fun hx =>
      hfree (find_ok.2 ⟨x, hlocate (by rw [hx]; nofun), hx⟩)
    have hentry := h.atPlace x hother hdirectory
    rw [localSavings_of_target htarget]
    unfold entryOf at hentry
    cases hsavings : f.savingsAt x history with
    | nil =>
      rw [hsavings, List.isEmpty_nil, if_pos rfl] at hentry
      refine load_of_none fun y hy => ?_
      rw [target_of_locate hy] at htarget
      rw [Except.ok.inj htarget, hentry]
    | cons s l =>
      rw [hsavings, List.isEmpty_cons, if_neg Bool.false_ne_true] at hentry
      have hfits : PortsFit (s :: l) := hsavings ▸ hports.filter _
      exact load_of_written (hlocate (by rw [hentry]; nofun)) hentry
        (Profiles.plain_toJson (Profiles.portsFit_saved hfits))
        (Profiles.recovers (Profiles.portsFit_saved hfits))

/-- What is read from the file of the user. -/
theorem loadGlobal (hfree : f.find globalFile ≠ .ok .directory) :
    f.loadGlobal globalFile = .ok (Registry.saved (userSavings history)) := by
  have hdirectory : ∀ x, f.locate globalFile = .ok x → f.entry? x ≠ some .directory :=
    fun x hx hentry => hfree (find_ok.2 ⟨x, hx, hentry⟩)
  have hentry : ∀ x, f.locate globalFile = .ok x → f.entry? x = _ :=
    fun x hx => h.atUser x (target_of_locate hx) (hdirectory x hx)
  unfold entryOf at hentry
  cases hsavings : userSavings history with
  | nil =>
    rw [hsavings, List.isEmpty_nil, if_pos rfl] at hentry
    exact load_of_none hentry
  | cons s l =>
    rw [hsavings, List.isEmpty_cons, if_neg Bool.false_ne_true] at hentry
    obtain ⟨x, hx⟩ := h.located (by rw [hsavings]; exact List.cons_ne_nil _ _)
    have hfits : PortsFit (s :: l) := hsavings ▸ hports.filter _
    exact load_of_written hx (hentry x hx) (Registry.plain_toJson (Registry.portsFit_saved hfits))
      (Registry.recovers (Registry.portsFit_saved hfits))

end Stores

/-! ## One call -/

theorem afterSaving_ok (h : f.afterSaving globalFile s = .ok f') :
    ∃ path v, f.withProfile s.project globalFile s.name s.profile s.scope = .ok (path, v) ∧
      f.save path v = (.ok (), f') := by
  unfold afterSaving saveProfile at h
  cases hwith : f.withProfile s.project globalFile s.name s.profile s.scope with
  | error e =>
    rw [hwith] at h
    cases h
  | ok p =>
    obtain ⟨path, v⟩ := p
    rw [hwith] at h
    dsimp only at h
    cases hsave : f.save path v with
    | mk saved f₁ =>
      rw [hsave] at h
      cases saved with
      | error e => cases h
      | ok u =>
        obtain rfl := Except.ok.inj h
        exact ⟨path, v, rfl, hsave⟩

theorem afterSaving_project (h : f.afterSaving globalFile s = .ok f')
    (hscope : s.scope = .project) : ∃ profiles, f.loadLocal (localPath s.project) = .ok profiles ∧
      f.save (localPath s.project) (profiles.insert s.name s.profile).toJson = (.ok (), f') := by
  obtain ⟨path, v, hwith, hsave⟩ := afterSaving_ok h
  rw [hscope] at hwith
  obtain ⟨profiles, hload, hwith⟩ := Except.bind_ok.1 hwith
  obtain ⟨rfl, rfl⟩ := Prod.mk.inj (Except.ok.inj hwith)
  exact ⟨profiles, hload, hsave⟩

theorem afterSaving_user (h : f.afterSaving globalFile s = .ok f')
    (hscope : s.scope = .user) : ∃ registry, f.loadGlobal globalFile = .ok registry ∧
      f.save globalFile (Registry.mk (registry.projects.insert s.project
        ((registry.projects.getD s.project .empty).insert s.name s.profile))).toJson =
          (.ok (), f') := by
  obtain ⟨path, v, hwith, hsave⟩ := afterSaving_ok h
  rw [hscope] at hwith
  obtain ⟨registry, hload, hwith⟩ := Except.bind_ok.1 hwith
  obtain ⟨rfl, rfl⟩ := Prod.mk.inj (Except.ok.inj hwith)
  exact ⟨registry, hload, hsave⟩

theorem afterSaving_directory (h : f.afterSaving globalFile s = .ok f') :
    f'.directory = f.directory := by
  obtain ⟨path, v, -, hsave⟩ := afterSaving_ok h
  obtain ⟨⟨x, hx⟩, -⟩ := save_ok hsave
  exact hx.directory

/-- No directory stands where a value is written. -/
theorem WrittenAt.find_ne {v : Json} (h : f.WrittenAt path v x f') :
    f.find path ≠ .ok .directory := by
  intro hfind
  obtain ⟨y, hy, hentry⟩ := find_ok.1 hfind
  have hxy : f'.target path = .ok y := (target_eq h.directory).trans (target_of_locate hy)
  rw [target_of_locate h.located] at hxy
  rw [Except.ok.inj hxy] at h
  exact h.free hentry

/-- Elsewhere, what is no directory afterwards is what was there before. -/
theorem WrittenAt.entry?_eq {v : Json} (h : f.WrittenAt path v x f') (hyx : y ≠ x)
    (hy : f'.entry? y ≠ some .directory) : f'.entry? y = f.entry? y :=
  (h.others y hyx).resolve_right fun hmade => hy hmade.2

theorem savingsAt_concat_of_target (hscope : s.scope = .project)
    (hx : f.target (localPath s.project) = .ok x) :
    f.savingsAt x (history ++ [s]) = f.savingsAt x history ++ [s] := by
  simp [savingsAt, hscope, hx]

theorem savingsAt_concat_of_ne (h : s.scope = .project → f.target (localPath s.project) ≠ .ok x) :
    f.savingsAt x (history ++ [s]) = f.savingsAt x history := by
  have hdrop : [s].filter (fun s => s.scope = .project &&
      decide (f.target (localPath s.project) = .ok x)) = [] := by
    simpa using h
  unfold savingsAt
  rw [List.filter_append, hdrop, List.append_nil]

theorem userSavings_concat_of_user (h : s.scope = .user) :
    userSavings (history ++ [s]) = userSavings history ++ [s] := by
  simp [userSavings, h]

theorem userSavings_concat_of_project (h : s.scope = .project) :
    userSavings (history ++ [s]) = userSavings history := by
  simp [userSavings, h]

theorem entryOf_concat (l : List Saving) (s : Saving) (v : Json) :
    entryOf (l ++ [s]) v = some (.file (some v.pretty)) := by
  simp [entryOf]

/-- A call keeps up what the files hold. -/
theorem Stores.afterSaving (h : f.Stores globalFile history) (hports : PortsFit history)
    (hforward : ".." ∉ Path.parts s.project)
    (hdistinct : f.sameFile (localPath s.project) globalFile = false)
    (hs : f.afterSaving globalFile s = .ok f') : f'.Stores globalFile (history ++ [s]) := by
  cases hscope : s.scope with
  | project =>
    obtain ⟨profiles, hload, hsave⟩ := afterSaving_project hs hscope
    obtain ⟨⟨x, hwritten⟩, hconnected⟩ := save_ok hsave
    have hx : f.target (localPath s.project) = .ok x :=
      (target_eq hwritten.directory).symm.trans (target_of_locate hwritten.located)
    -- What is written is what the file held before, with the new profile.
    rw [h.loadLocal hports hforward hdistinct hwritten.find_ne, localSavings_of_target hx] at hload
    obtain rfl := Except.ok.inj hload
    refine ⟨hconnected h.connected, fun y hother hy => ?_, fun y hglobal hy => ?_, fun hne => ?_⟩
    · rw [savingsAt_eq hwritten.directory]
      rw [target_eq hwritten.directory] at hother
      by_cases hyx : y = x
      · subst hyx
        rw [savingsAt_concat_of_target hscope hx, entryOf_concat, Profiles.saved_concat]
        exact hwritten.written
      · have hsame := hwritten.entry?_eq hyx hy
        have hne : f.target (localPath s.project) ≠ .ok y := fun hy =>
          hyx (Except.ok.inj (hy.symm.trans hx))
        rw [savingsAt_concat_of_ne fun _ => hne, hsame]
        exact h.atPlace y hother (hsame ▸ hy)
    · rw [target_eq hwritten.directory] at hglobal
      -- This is where the file of the user and that of the project must not be one.
      have hyx : y ≠ x := by
        rintro rfl
        exact Bool.false_ne_true (hdistinct.symm.trans (sameFile_iff.2 ⟨y, hx, hglobal⟩))
      have hsame := hwritten.entry?_eq hyx hy
      rw [userSavings_concat_of_project hscope, hsame]
      exact h.atUser y hglobal (hsame ▸ hy)
    · rw [userSavings_concat_of_project hscope] at hne
      obtain ⟨y, hy⟩ := h.located hne
      exact ⟨y, locate_mono hwritten.directory (fun z hz => hwritten.kept hz) hy⟩
  | user =>
    obtain ⟨registry, hload, hsave⟩ := afterSaving_user hs hscope
    obtain ⟨⟨x, hwritten⟩, hconnected⟩ := save_ok hsave
    have hx : f.target globalFile = .ok x :=
      (target_eq hwritten.directory).symm.trans (target_of_locate hwritten.located)
    rw [h.loadGlobal hports hwritten.find_ne] at hload
    obtain rfl := Except.ok.inj hload
    refine ⟨hconnected h.connected, fun y hother hy => ?_, fun y hglobal hy => ?_,
      fun _ => ⟨x, hwritten.located⟩⟩
    · rw [target_eq hwritten.directory] at hother
      have hyx : y ≠ x := by
        rintro rfl
        exact hother hx
      have hsame := hwritten.entry?_eq hyx hy
      rw [savingsAt_eq hwritten.directory, savingsAt_concat_of_ne (by simp [hscope]), hsame]
      exact h.atPlace y hother (hsame ▸ hy)
    · rw [target_eq hwritten.directory, hx] at hglobal
      obtain rfl := Except.ok.inj hglobal
      rw [userSavings_concat_of_user hscope, entryOf_concat, Registry.saved_concat]
      exact hwritten.written

/-! ## Any number of calls -/

theorem afterSavings_append (start : Files) (globalFile : String) (history later : List Saving) :
    start.afterSavings globalFile (history ++ later) =
      start.afterSavings globalFile history >>= fun f => f.afterSavings globalFile later :=
  List.foldlM_append

theorem afterSavings_of_append (h : start.afterSavings globalFile history = .ok f)
    (later : List Saving) :
    start.afterSavings globalFile (history ++ later) = f.afterSavings globalFile later := by
  rw [afterSavings_append, h]
  rfl

theorem afterSavings_singleton (f : Files) (globalFile : String) (s : Saving) :
    f.afterSavings globalFile [s] = f.afterSaving globalFile s :=
  bind_pure _

theorem afterSavings_directory (h : start.afterSavings globalFile history = .ok f) :
    f.directory = start.directory :=
  Except.foldlM_preserves (P := fun f : Files => f.directory = start.directory)
    (fun _ _ _ hf hs => (afterSaving_directory hs).trans hf) rfl h

/-- After any calls, the files hold what was saved. -/
theorem stores_afterSavings (hstart : start.Bare) (hports : PortsFit history)
    (hforward : ∀ s ∈ history, ".." ∉ Path.parts s.project)
    (hdistinct : ∀ s ∈ history, start.sameFile (localPath s.project) globalFile = false)
    (h : start.afterSavings globalFile history = .ok f) : f.Stores globalFile history := by
  induction history using List.reverseRecOn generalizing f with
  | nil =>
    obtain rfl := Except.ok.inj h
    exact hstart.stores globalFile
  | append_singleton history s ih =>
    rw [afterSavings_append, Except.bind_ok] at h
    obtain ⟨f₁, hf₁, hs⟩ := h
    rw [afterSavings_singleton] at hs
    unfold PortsFit at hports
    rw [List.forall_mem_append] at hports hforward hdistinct
    have hsame := sameFile_eq (afterSavings_directory hf₁) (localPath s.project) globalFile
    exact (ih hports.1 hforward.1 hdistinct.1 hf₁).afterSaving hports.1
      (hforward.2 s (List.mem_singleton_self s))
      (hsame.trans (hdistinct.2 s (List.mem_singleton_self s))) hs

theorem Apart.of_directory (h : f.Apart globalFile history project)
    (hdirectory : f.directory = start.directory) : ∀ s ∈ history,
      ".." ∉ Path.parts s.project ∧ start.sameFile (localPath s.project) globalFile = false := by
  intro s hs
  have hmem : s.project ∈ project :: history.map Saving.project :=
    List.mem_cons_of_mem _ (List.mem_map_of_mem hs)
  exact ⟨h.forward _ hmem, (sameFile_eq hdirectory _ _).symm.trans (h.distinct _ hmem)⟩

/-- What is read from both files after calls that keep them apart. -/
theorem loads_after_savings (hstart : start.Bare) (hports : PortsFit history)
    (hsaved : start.afterSavings globalFile history = .ok f)
    (hapart : f.Apart globalFile history project) :
    f.loadLocal (localPath project) = .ok (Profiles.saved (f.localSavings project history)) ∧
      f.loadGlobal globalFile = .ok (Registry.saved (userSavings history)) := by
  have hcalls := hapart.of_directory (afterSavings_directory hsaved)
  have hstores := stores_afterSavings hstart hports (fun s hs => (hcalls s hs).1)
    (fun s hs => (hcalls s hs).2) hsaved
  exact ⟨hstores.loadLocal hports (hapart.forward _ List.mem_cons_self)
    (hapart.distinct _ List.mem_cons_self) hapart.localFree,
    hstores.loadGlobal hports hapart.globalFree⟩

theorem loadProfiles_after_savings (hstart : start.Bare) (hports : PortsFit history)
    (hsaved : start.afterSavings globalFile history = .ok f)
    (hapart : f.Apart globalFile history project) :
    f.loadProfiles project globalFile =
      .ok ((Profiles.saved (globalSavings project history)).merge
        (Profiles.saved (f.localSavings project history))) := by
  obtain ⟨hlocal, hglobal⟩ := loads_after_savings hstart hports hsaved hapart
  unfold loadProfiles
  rw [hglobal, hlocal]
  show Except.ok (((Registry.saved (userSavings history)).projects.getD project .empty).merge _) = _
  rw [Registry.getD_saved]
  rfl

/-- Calls for other projects save nothing that concerns the project. -/
theorem savings_append_of_others {later : List Saving} (h : ∀ s ∈ later, s.project ≠ project ∧
      f.sameFile (localPath s.project) (localPath project) = false) :
    f.localSavings project (history ++ later) = f.localSavings project history ∧
      globalSavings project (history ++ later) = globalSavings project history := by
  have hlocal : f.localSavings project later = [] :=
    List.filter_eq_nil_iff.2 fun s hs => by simp [(h s hs).2]
  have hglobal : globalSavings project later = [] :=
    List.filter_eq_nil_iff.2 fun s hs => by
      simpa using (h s (List.mem_filter.1 hs).1).1
  constructor
  · unfold localSavings at hlocal ⊢
    rw [List.filter_append, hlocal, List.append_nil]
  · unfold globalSavings userSavings at hglobal ⊢
    rw [List.filter_append, List.filter_append, hglobal, List.append_nil]

/-- After any calls that all succeed, the profiles of a project show what was last saved in its own
file, over what was last saved for it in the file of the user.  Every default is there.  More calls,
for other projects, change nothing of this. -/
theorem profiles_after_savings (hstart : start.Bare)
    (hports : ∀ s ∈ history, s.profile.config.port ≤ 65535)
    (hsaved : start.afterSavings globalFile history = .ok f)
    (hapart : f.Apart globalFile history project) :
    ∃ profiles, f.loadProfiles project globalFile = .ok profiles ∧
      profiles.Shows (f.localSavings project history) (globalSavings project history) ∧
      (∃ mine, f.loadLocal (localPath project) = .ok mine ∧ mine.DefaultFound) ∧
      (∃ registry, f.loadGlobal globalFile = .ok registry ∧
        ∀ e ∈ registry.projects.entries, e.2.DefaultFound) ∧
      ∀ later f', f.afterSavings globalFile later = .ok f' →
        (∀ s ∈ later, s.profile.config.port ≤ 65535) →
        f'.Apart globalFile (history ++ later) project →
        (∀ s ∈ later, s.project ≠ project ∧
          f.sameFile (localPath s.project) (localPath project) = false) →
        f'.loadProfiles project globalFile = .ok profiles := by
  obtain ⟨hlocal, hglobal⟩ := loads_after_savings hstart hports hsaved hapart
  refine ⟨_, loadProfiles_after_savings hstart hports hsaved hapart,
    Profiles.shows_merge _ _, ⟨_, hlocal, Profiles.defaultFound_saved _⟩,
    ⟨_, hglobal, Registry.defaultFound_saved _⟩, fun later f' hlater hlaterPorts hlaterApart hother
      => ?_⟩
  have hall : start.afterSavings globalFile (history ++ later) = .ok f' :=
    (afterSavings_of_append hsaved later).trans hlater
  have hallPorts : PortsFit (history ++ later) := List.forall_mem_append.2 ⟨hports, hlaterPorts⟩
  have hsame := afterSavings_directory hlater
  have hlocalSame :
      f'.localSavings project (history ++ later) = f.localSavings project history := by
    rw [← (savings_append_of_others hother).1]
    unfold localSavings
    simp only [sameFile_eq hsame]
  rw [loadProfiles_after_savings hstart hallPorts hall hlaterApart, hlocalSame,
    (savings_append_of_others hother).2]

/-! ## Some calls -/

theorem bare_empty : empty.Bare := by
  have hentry : ∀ x, empty.entry? x ≠ none → empty.entry? x = some .directory ∧ x = .root := by
    intro x hx
    by_cases hroot : x = .root
    · exact ⟨hroot ▸ empty.entry?_root, hroot⟩
    · exact absurd (if_neg hroot) hx
  refine ⟨⟨fun x hx => ?_, empty.entry?_root⟩, fun x content hx => ?_⟩
  · rw [(hentry x hx).2]
    exact empty.entry?_root
  · rw [(hentry x (by rw [hx]; nofun)).1] at hx
    cases hx

/-- The file of the user in the examples. -/
def userFile : String := "/home/.config/pgconverge/connections.json"

/-- A profile for a host. -/
def profileOf (host : String) : Profile :=
  .ofConfig ⟨host, 5432, "postgres", none, "app"⟩

/-- The files after calls, from an empty tree. -/
def filesOf (history : List Saving) : Files :=
  ((empty.afterSavings userFile history).toOption).getD empty

theorem afterSavings_filesOf (h : (empty.afterSavings userFile history).toOption.isSome = true) :
    empty.afterSavings userFile history = .ok (filesOf history) := by
  obtain ⟨f, hf⟩ := Option.isSome_iff_exists.1 h
  refine Except.eq_ok_of_toOption ?_
  rw [filesOf, hf]
  rfl

/-- Calls for a project, in both files. -/
def ownCalls : List Saving := [
  ⟨"/app", "ci", profileOf "ci", .user⟩,
  ⟨"/app", "dev", profileOf "dev", .project⟩]

/-- A call for another project. -/
def otherCalls : List Saving := [⟨"/other", "test", profileOf "test", .project⟩]

theorem profiles_after_savings_own :
    ∃ profiles, (filesOf ownCalls).loadProfiles "/app" userFile = .ok profiles ∧
      profiles.get none = .ok ("dev", profileOf "dev") ∧
      profiles.get (some "ci") = .ok ("ci", profileOf "ci") ∧
      profiles.get (some "test") =
        .error (.config (.unknownProfile "test" profiles.names)) ∧
      (filesOf (ownCalls ++ otherCalls)).loadProfiles "/app" userFile = .ok profiles := by
  have hsaved : empty.afterSavings userFile ownCalls = .ok (filesOf ownCalls) :=
    afterSavings_filesOf (by decide +kernel)
  have hlater : (filesOf ownCalls).afterSavings userFile otherCalls =
      .ok (filesOf (ownCalls ++ otherCalls)) :=
    (afterSavings_of_append hsaved otherCalls).symm.trans (afterSavings_filesOf (by decide +kernel))
  have hapart : (filesOf ownCalls).Apart userFile ownCalls "/app" :=
    ⟨by decide +kernel, by decide +kernel, by decide +kernel, by decide +kernel⟩
  have hlaterApart : (filesOf (ownCalls ++ otherCalls)).Apart userFile (ownCalls ++ otherCalls)
      "/app" :=
    ⟨by decide +kernel, by decide +kernel, by decide +kernel, by decide +kernel⟩
  have hlocal : (filesOf ownCalls).localSavings "/app" ownCalls =
      [⟨"/app", "dev", profileOf "dev", .project⟩] := by
    decide +kernel
  obtain ⟨profiles, hload, hshows, -, -, hothers⟩ :=
    profiles_after_savings bare_empty (by decide) hsaved hapart
  rw [hlocal] at hshows
  obtain ⟨c, hc, hget⟩ := hshows.byDefault "dev" rfl
  obtain rfl : profileOf "dev" = c := Option.some.inj hc
  exact ⟨profiles, hload, hget, hshows.found "ci" (profileOf "ci") rfl,
    hshows.missing "test" rfl,
    hothers otherCalls _ hlater (by decide) hlaterApart (by decide +kernel)⟩

/-- A project in the place of the file of another one. -/
def nestedProjects : List Saving := [
  ⟨"/app", "ci", profileOf "ci", .user⟩,
  ⟨"/app/.pgconverge/connections.json", "ci", profileOf "nested", .project⟩]

/-- A path that goes up from a directory that is not there yet. -/
def returningPath : List Saving := [
  ⟨"/app", "ci", profileOf "ci", .project⟩,
  ⟨"/new/../app", "dev", profileOf "dev", .project⟩]

/-- Where the files are not kept apart, all of the calls succeed, and yet what was saved cannot be
read or is lost. -/
theorem profiles_out_of_reach :
    (empty.afterSavings userFile nestedProjects = .ok (filesOf nestedProjects) ∧
      (∀ s ∈ nestedProjects,
        (filesOf nestedProjects).sameFile (localPath s.project) userFile = false) ∧
      (filesOf nestedProjects).localSavings "/app" nestedProjects = [] ∧
      lastSaved "ci" (globalSavings "/app" nestedProjects) = some (profileOf "ci") ∧
      ∀ profiles, (filesOf nestedProjects).loadProfiles "/app" userFile ≠ .ok profiles) ∧
    (empty.afterSavings userFile returningPath = .ok (filesOf returningPath) ∧
      (∀ s ∈ returningPath,
        (filesOf returningPath).sameFile (localPath s.project) userFile = false) ∧
      lastSaved "ci" ((filesOf returningPath).localSavings "/app" returningPath) =
        some (profileOf "ci") ∧
      (do let profiles ← (filesOf returningPath).loadProfiles "/app" userFile
          profiles.get (some "ci")) = .error (.config (.unknownProfile "ci" ["dev"]))) := by
  have hdirectory : (filesOf nestedProjects).find (localPath "/app") = .ok .directory := by
    decide +kernel
  refine ⟨⟨afterSavings_filesOf ?_, ?_, ?_, ?_, fun profiles hload =>
    (free_of_loadProfiles hload).1 hdirectory⟩, afterSavings_filesOf ?_, ?_, ?_, ?_⟩ <;>
    decide +kernel

end Files

end Accord
