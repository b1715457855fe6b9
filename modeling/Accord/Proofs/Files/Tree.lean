import Accord.Profile.Store
import Accord.Proofs.Session.Run

/-!
# What is where in a tree of files

A path has a target, whether or not there is anything on the way (`Files.target`).  Where everything
is in a directory (`Files.Connected`), a path that never goes up leads to its target if there is
anything (`locate_of_target`).  Making directories adds nothing but directories, and a file that is
saved stands at the target of its path, with everything else as it was (`save_ok`).
-/

namespace Accord

theorem Location.parent_child (place : Location) (name : String) :
    (place.child name).parent = place := by
  obtain ⟨_, names, rfl⟩ := place
  rfl

namespace Files

variable {f f' f'' : Files} {place x y : Location} {path part : String}

theorem entry?_root (f : Files) : f.entry? .root = some .directory :=
  if_pos rfl

theorem ne_root_of_ne_directory (h : f.entry? place ≠ some .directory) : place ≠ .root := by
  rintro rfl
  exact h f.entry?_root

theorem entry?_set {e : Entry} (hx : x ≠ .root) :
    Files.entry? (f.set x e) y = if y = x then some e else f.entry? y := by
  unfold entry? set
  by_cases hy : y = .root
  · rw [if_pos hy, if_pos hy, if_neg (hy ▸ hx.symm)]
  · rw [if_neg hy, if_neg hy, List.lookup_cons]
    by_cases hyx : y = x
    · rw [if_pos hyx, beq_iff_eq.2 hyx]
    · rw [if_neg hyx, beq_eq_false_iff_ne.2 hyx]

/-! ## Following a path -/

/-- Where a path leads to, whether or not there is anything on the way. -/
def target (f : Files) (path : String) : Except FileProblem Location := do
  checkPath path
  (Path.parts path).foldlM next (f.start path)

theorem step_ok : f.step place part = .ok x ↔
    f.entry? place = some .directory ∧ next place part = .ok x := by
  unfold step requireDirectory
  cases f.entry? place with
  | none => simp [bind, Except.bind]
  | some e => cases e <;> simp [bind, Except.bind]

theorem next_ok (h : next place part = .ok x) :
    x = place ∨ part = ".." ∧ x = place.parent ∨ x = place.child part := by
  unfold next at h
  split at h
  · exact .inl (Except.ok.inj h).symm
  · split at h
    · exact .inr (.inl ⟨‹_›, (Except.ok.inj h).symm⟩)
    · split at h
      · cases h
      · exact .inr (.inr (Except.ok.inj h).symm)

theorem locate_ok : f.locate path = .ok x ↔
    checkPath path = .ok () ∧ (Path.parts path).foldlM f.step (f.start path) = .ok x := by
  unfold locate
  rw [Except.bind_ok]
  exact ⟨fun ⟨_, h⟩ => h, fun h => ⟨(), h⟩⟩

theorem target_ok : f.target path = .ok x ↔
    checkPath path = .ok () ∧ (Path.parts path).foldlM next (f.start path) = .ok x := by
  unfold target
  rw [Except.bind_ok]
  exact ⟨fun ⟨_, h⟩ => h, fun h => ⟨(), h⟩⟩

/-- A path that can be followed leads to its target. -/
theorem target_of_locate (h : f.locate path = .ok x) : f.target path = .ok x := by
  rw [locate_ok] at h
  exact target_ok.2 ⟨h.1, Except.foldlM_imp (fun _ _ _ hstep => (step_ok.1 hstep).2) h.2⟩

theorem target_eq (h : f'.directory = f.directory) : f'.target path = f.target path := by
  unfold target start
  rw [h]

/-- Whatever can be followed can still be followed if no directory is lost. -/
theorem locate_mono (hdirectory : f'.directory = f.directory)
    (hkept : ∀ y, f.entry? y = some .directory → f'.entry? y = some .directory)
    (h : f.locate path = .ok x) : f'.locate path = .ok x := by
  have hstep : ∀ place part y, f.step place part = .ok y → f'.step place part = .ok y :=
    fun place _ _ hy => step_ok.2 ((step_ok.1 hy).imp_left (hkept place))
  have hstart : f'.start path = f.start path := by
    unfold start
    rw [hdirectory]
  rw [locate_ok] at h ⊢
  exact ⟨h.1, hstart ▸ Except.foldlM_imp hstep h.2⟩

/-! ## Everything is in a directory -/

/-- Everything is in a directory, and paths start at one. -/
structure Connected (f : Files) : Prop where
  parent : ∀ x, f.entry? x ≠ none → f.entry? x.parent = some .directory
  here : f.entry? f.directory = some .directory

namespace Connected

theorem start (h : f.Connected) (path : String) :
    f.entry? (f.start path) = some .directory := by
  unfold Files.start
  split
  · exact f.entry?_root
  · exact h.here

/-- What a path leads to is in a directory, unless it is one. -/
theorem of_locate (h : f.Connected) (hx : f.locate path = .ok x) :
    f.entry? x = some .directory ∨ f.entry? x.parent = some .directory := by
  have hstep : ∀ place part y, f.step place part = .ok y →
      f.entry? y = some .directory ∨ f.entry? y.parent = some .directory := by
    intro place part y hy
    obtain ⟨hplace, hnext⟩ := step_ok.1 hy
    rcases next_ok hnext with rfl | ⟨-, rfl⟩ | rfl
    · exact .inl hplace
    · exact .inl (h.parent _ (by rw [hplace]; exact Option.some_ne_none _))
    · exact .inr (by rw [Location.parent_child]; exact hplace)
  exact Except.foldlM_preserves (fun place part y _ hy => hstep place part y hy)
    (.inl (h.start path)) (locate_ok.1 hx).2

/-- A path that never goes up is led through directories if it ends in one. -/
theorem foldlM_step (h : f.Connected) {parts : List String} (hup : ".." ∉ parts)
    (hx : parts.foldlM next place = .ok x) (hdirectory : f.entry? x = some .directory) :
    f.entry? place = some .directory ∧ parts.foldlM f.step place = .ok x := by
  induction parts generalizing place with
  | nil =>
    obtain rfl := Except.ok.inj hx
    exact ⟨hdirectory, rfl⟩
  | cons part parts ih =>
    rw [List.mem_cons, not_or] at hup
    rw [List.foldlM_cons, Except.bind_ok] at hx
    obtain ⟨y, hy, hx⟩ := hx
    obtain ⟨hydirectory, hrest⟩ := ih hup.2 hx
    have hplace : f.entry? place = some .directory := by
      rcases next_ok hy with rfl | ⟨rfl, -⟩ | rfl
      · exact hydirectory
      · exact absurd rfl hup.1
      · have hparent := h.parent _ (by rw [hydirectory]; exact Option.some_ne_none _)
        rwa [Location.parent_child] at hparent
    rw [List.foldlM_cons, Except.bind_ok]
    exact ⟨hplace, y, step_ok.2 ⟨hplace, hy⟩, hrest⟩

/-- A path that never goes up leads to its target if anything is there. -/
theorem locate_of_target (h : f.Connected) {parts : List String} {name : String}
    (hparts : Path.parts path = parts ++ [name]) (hname : Path.isIdle name = false)
    (hup : ".." ∉ Path.parts path) (hx : f.target path = .ok x) (hentry : f.entry? x ≠ none) :
    f.locate path = .ok x := by
  rw [hparts, List.mem_append, not_or, List.mem_singleton] at hup
  rw [target_ok, hparts, List.foldlM_append, Except.bind_ok] at hx
  obtain ⟨hcheck, y, hy, hx⟩ := hx
  rw [List.foldlM_cons, Except.bind_ok] at hx
  obtain ⟨x', hx', hx⟩ := hx
  obtain rfl := Except.ok.inj hx
  -- The last part is a name, so what is there is in the directory that the others lead to.
  have hchild : x' = y.child name := by
    unfold next at hx'
    rw [hname, if_neg Bool.false_ne_true, if_neg (Ne.symm hup.2)] at hx'
    split at hx'
    · cases hx'
    · exact (Except.ok.inj hx').symm
  have hparent := h.parent _ hentry
  rw [hchild, Location.parent_child] at hparent
  rw [locate_ok, hparts, List.foldlM_append, Except.bind_ok]
  refine ⟨hcheck, y, (h.foldlM_step hup.1 hy hparent).2, ?_⟩
  rw [List.foldlM_cons, Except.bind_ok]
  exact ⟨x', step_ok.2 ⟨hparent, hx'⟩, rfl⟩

end Connected

/-! ## Making directories -/

/-- Nothing is added but directories. -/
structure Extends (f f' : Files) : Prop where
  directory : f'.directory = f.directory
  entry? : ∀ x, f'.entry? x = f.entry? x ∨ f.entry? x = none ∧ f'.entry? x = some .directory

namespace Extends

theorem refl (f : Files) : f.Extends f :=
  ⟨rfl, fun _ => .inl rfl⟩

theorem trans (h : f.Extends f') (h' : f'.Extends f'') : f.Extends f'' where
  directory := h'.directory.trans h.directory
  entry? x := by
    rcases h.entry? x with hx | ⟨hnone, hx⟩
    · rcases h'.entry? x with hx' | ⟨hnone', hx'⟩
      · exact .inl (hx'.trans hx)
      · exact .inr ⟨hx ▸ hnone', hx'⟩
    · rcases h'.entry? x with hx' | ⟨hnone', -⟩
      · exact .inr ⟨hnone, hx'.trans hx⟩
      · rw [hx] at hnone'
        cases hnone'

theorem set (h : f.entry? x = none) : f.Extends (f.set x .directory) where
  directory := rfl
  entry? y := by
    rw [entry?_set (ne_root_of_ne_directory (by rw [h]; nofun))]
    by_cases hyx : y = x
    · rw [if_pos hyx, hyx]
      exact .inr ⟨h, rfl⟩
    · rw [if_neg hyx]
      exact .inl rfl

theorem kept (h : f.Extends f') (hx : f.entry? x = some .directory) :
    f'.entry? x = some .directory := by
  rcases h.entry? x with hx' | ⟨hnone, -⟩
  · rw [hx', hx]
  · rw [hx] at hnone
    cases hnone

end Extends

theorem Connected.set (h : f.Connected) {e : Entry} (hx : f.entry? x ≠ some .directory)
    (hparent : f.entry? x.parent = some .directory) : (f.set x e).Connected := by
  have hroot := ne_root_of_ne_directory hx
  have hkept : ∀ y, f.entry? y = some .directory →
      Files.entry? (f.set x e) y = some .directory := by
    intro y hy
    rw [entry?_set hroot, if_neg (by rintro rfl; exact hx hy)]
    exact hy
  refine ⟨fun y hy => ?_, hkept _ h.here⟩
  rw [entry?_set hroot] at hy
  by_cases hyx : y = x
  · exact hyx ▸ hkept _ hparent
  · rw [if_neg hyx] at hy
    exact hkept _ (h.parent y hy)

/-- Directories are made where there is nothing. -/
theorem makeParts_extends (f : Files) (place : Location) (made : Bool) (parts : List String) :
    f.Extends (f.makeParts place made parts).2 := by
  induction parts generalizing f place made with
  | nil => exact .refl f
  | cons part parts ih =>
    unfold makeParts
    cases next place part with
    | error p => exact .refl f
    | ok x =>
      dsimp only
      cases hx : f.entry? x with
      | none => exact (Extends.set hx).trans (ih _ _ _)
      | some e =>
        cases e with
        | file content => exact .refl f
        | directory => exact ih _ _ _

theorem Connected.makeParts (h : f.Connected) (hplace : f.entry? place = some .directory)
    (made : Bool) (parts : List String) : (f.makeParts place made parts).2.Connected := by
  induction parts generalizing f place made with
  | nil => exact h
  | cons part parts ih =>
    unfold Files.makeParts
    cases hnext : next place part with
    | error p => exact h
    | ok x =>
      dsimp only
      cases hx : f.entry? x with
      | none =>
        have hparent : f.entry? x.parent = some .directory := by
          rcases next_ok hnext with rfl | ⟨-, rfl⟩ | rfl
          · exact h.parent _ (by rw [hplace]; exact Option.some_ne_none _)
          · exact absurd (h.parent _ (by rw [hplace]; exact Option.some_ne_none _)) (by simp [hx])
          · rw [Location.parent_child]
            exact hplace
        have hset := h.set (e := .directory) (by rw [hx]; nofun) hparent
        refine ih hset ?_ true
        rw [entry?_set (ne_root_of_ne_directory (by rw [hx]; nofun)), if_pos rfl]
      | some e =>
        cases e with
        | file content => exact h
        | directory => exact ih h hx made

theorem makeDirectory_extends (f : Files) (path : String) :
    f.Extends (f.makeDirectory path).2 := by
  unfold makeDirectory
  split
  · exact .refl f
  · split
    · exact .refl f
    · exact f.makeParts_extends _ _ _

theorem Connected.makeDirectory (h : f.Connected) (path : String) :
    (f.makeDirectory path).2.Connected := by
  unfold Files.makeDirectory
  split
  · exact h
  · split
    · exact h
    · exact h.makeParts (h.start path) _ _

/-! ## Writing files -/

theorem write_ok {content : Option String} : f.write path content = .ok f' ↔
    ∃ x, f.locate path = .ok x ∧ f.entry? x ≠ some .directory ∧
      f' = f.set x (.file content) := by
  unfold write
  rw [Except.bind_ok]
  refine exists_congr fun x => and_congr_right fun _ => ?_
  by_cases hx : f.entry? x = some .directory
  · simp [hx]
  · rw [if_neg hx]
    exact ⟨fun h => ⟨hx, (Except.ok.inj h).symm⟩, fun h => h.2 ▸ rfl⟩

/-- A value is written at a place, and everything else is as it was, but for directories that were
made. -/
structure WrittenAt (f : Files) (path : String) (v : Json) (x : Location) (f' : Files) : Prop where
  directory : f'.directory = f.directory
  located : f'.locate path = .ok x
  free : f.entry? x ≠ some .directory
  written : f'.entry? x = some (.file (some v.pretty))
  others : ∀ y, y ≠ x →
    f'.entry? y = f.entry? y ∨ f.entry? y = none ∧ f'.entry? y = some .directory

theorem WrittenAt.kept {v : Json} (h : f.WrittenAt path v x f')
    (hy : f.entry? y = some .directory) : f'.entry? y = some .directory := by
  have hyx : y ≠ x := by
    rintro rfl
    exact h.free hy
  rcases h.others y hyx with hsame | ⟨hnone, -⟩
  · rw [hsame, hy]
  · rw [hy] at hnone
    cases hnone

theorem save_ok {v : Json} (h : f.save path v = (.ok (), f')) :
    (∃ x, f.WrittenAt path v x f') ∧ (f.Connected → f'.Connected) := by
  have hmade := f.makeDirectory_extends (Path.parent path)
  have hconnected := fun h : f.Connected => h.makeDirectory (Path.parent path)
  unfold save at h
  cases hmake : f.makeDirectory (Path.parent path) with
  | mk made f₁ =>
    rw [hmake] at h hmade hconnected
    cases made with
    | error p => cases h
    | ok u =>
      dsimp only at h hmade hconnected
      cases hwrite : f₁.write path (some v.pretty) with
      | error p => rw [hwrite] at h; cases h
      | ok f₂ =>
        rw [hwrite] at h
        obtain ⟨-, rfl⟩ := Prod.mk.inj h
        obtain ⟨x, hx, hfree, rfl⟩ := write_ok.1 hwrite
        have hroot := ne_root_of_ne_directory hfree
        refine ⟨⟨x, hmade.directory, ?_, fun hdirectory => hfree (hmade.kept hdirectory), ?_,
          fun y hyx => ?_⟩, fun hf => ?_⟩
        · refine locate_mono (f := f₁) rfl (fun y hy => ?_) hx
          rw [entry?_set hroot, if_neg (by rintro rfl; exact hfree hy)]
          exact hy
        · rw [entry?_set hroot, if_pos rfl]
        · rw [entry?_set hroot, if_neg hyx]
          exact hmade.entry? y
        · exact (hconnected hf).set hfree (((hconnected hf).of_locate hx).resolve_left hfree)

end Files

end Accord
